import LensoBun.HostImports.Dispatch

set_option autoImplicit false

/-! # Dependencies of a V1 plugin

`createDependencyClients` of `index.ts`, which resolves the dependencies of a plugin definition among
the imports that the host has admitted, and the calls of the clients it makes. A client is known by
the descriptor its closure holds. The dependencies of a definition are the entries of an object, so
their names differ; the descriptors come from the host as JSON arrays and strings.

A dependency resolves to the import under its own requirement id, or else to the only import of its
capability. Which imports have been claimed before decides only whether the whole fails.
-/

namespace LensoBun.PluginV1

open HostImports

variable {V N : Type}

/-! ## Descriptors -/

/-- What `sameEndpoints` compares of a `CapabilityProviderDescriptor`. -/
structure EndpointDescriptor where
  capabilityId : String
  descriptorVersion : String
  operations : List String
  streamOperations : List String
  eventOperations : List String
  deriving DecidableEq, Repr

/-- `sameStrings`. -/
def sameStrings (left right : List String) : Bool :=
  left.length == right.length && (left.zip right).all fun p => p.1 == p.2

def sameEndpoint (endpoint expected : EndpointDescriptor) : Bool :=
  endpoint.capabilityId == expected.capabilityId &&
    endpoint.descriptorVersion == expected.descriptorVersion &&
    sameStrings endpoint.operations expected.operations &&
    sameStrings endpoint.streamOperations expected.streamOperations &&
    sameStrings endpoint.eventOperations expected.eventOperations

/-- `sameEndpoints`. -/
def sameEndpoints (left right : List EndpointDescriptor) : Bool :=
  left.length == right.length && (left.zip right).all fun p => sameEndpoint p.1 p.2

@[simp] theorem sameStrings_iff (left right : List String) :
    sameStrings left right = true ↔ left = right := by
  induction left generalizing right with
  | nil => cases right <;> simp [sameStrings]
  | cons x left ih =>
    cases right with
    | nil => simp [sameStrings]
    | cons y right =>
      have hrest := ih right
      simp only [sameStrings, Bool.and_eq_true, beq_iff_eq] at hrest
      simp only [sameStrings, List.length_cons, List.zip_cons_cons, List.all_cons,
        Bool.and_eq_true, beq_iff_eq, Nat.add_right_cancel_iff, List.cons.injEq, ← hrest]
      constructor
      · grind
      · grind

@[simp] theorem sameEndpoint_iff (endpoint expected : EndpointDescriptor) :
    sameEndpoint endpoint expected = true ↔ endpoint = expected := by
  obtain ⟨_, _, _, _, _⟩ := endpoint
  obtain ⟨_, _, _, _, _⟩ := expected
  simp [sameEndpoint, and_assoc]

theorem sameEndpoints_singleton (endpoint expected : EndpointDescriptor) :
    sameEndpoints [endpoint] [expected] = true ↔ endpoint = expected := by
  simp [sameEndpoints]

/-- An import descriptor without its requirement id. -/
def endpointOf (d : ImportDescriptor) : EndpointDescriptor :=
  ⟨d.capabilityId, d.descriptorVersion, d.operations, d.streamOperations, d.eventOperations⟩

/-! ## Definitions -/

inductive Cardinality where
  | one
  | optional
  | many
  deriving DecidableEq, Repr

def Cardinality.text : Cardinality → String
  | .one => "one"
  | .optional => "optional"
  | .many => "many"

/-- An entry of `dependencies`: a declaration, or a legacy binding without a `kind`. -/
inductive RawDependency where
  | declaration (id : Option String) (contract : EndpointDescriptor) (cardinality : Cardinality)
  | binding (descriptor : EndpointDescriptor)
  deriving DecidableEq, Repr

structure DependencyDefinition where
  requirementId : String
  descriptor : EndpointDescriptor
  cardinality : Cardinality
  deriving DecidableEq, Repr

/-- `dependencyDefinition`. -/
def dependencyDefinition (name : String) : RawDependency → DependencyDefinition
  | .declaration id contract cardinality => ⟨id.getD name, contract, cardinality⟩
  | .binding descriptor => ⟨name, descriptor, .one⟩

structure Dependencies where
  entries : List (String × RawDependency)
  names : (entries.map Prod.fst).Nodup

/-- `ActivationRequest`; `none` stands for a value of another type. -/
structure Activation where
  importsUrl : Option String
  importsToken : Option String
  imports : Option (List ImportDescriptor)
  deriving DecidableEq, Repr

/-! ## Resolution -/

/-- `admitted.get`: of two imports under one id the map has the later one. -/
def admittedAs (imports : List ImportDescriptor) (requirementId : String) :
    Option ImportDescriptor :=
  imports.reverse.find? (·.requirementId == requirementId)

/-- `admittedByCapability.get`. -/
def admittedByCapability (imports : List ImportDescriptor) (capabilityId : String) :
    List ImportDescriptor :=
  imports.filter (·.capabilityId == capabilityId)

/-- `legacy?.length === 1 ? legacy[0] : undefined`. -/
def onlyOne : List ImportDescriptor → Option ImportDescriptor
  | [d] => some d
  | _ => none

def resolve (imports : List ImportDescriptor) (dependency : DependencyDefinition) :
    Option ImportDescriptor :=
  (admittedAs imports dependency.requirementId).or
    (onlyOne (admittedByCapability imports dependency.descriptor.capabilityId))

/-- The loop over the dependencies, with the requirement ids claimed so far. -/
def claimClients (imports : List ImportDescriptor) :
    List String → List (String × RawDependency) → Except String (List (String × ImportDescriptor))
  | _, [] => .ok []
  | claimed, (name, raw) :: rest =>
    let dependency := dependencyDefinition name raw
    if dependency.cardinality ≠ .one then
      .error ("legacy Bun activation does not support " ++ dependency.cardinality.text ++
        " dependency " ++ dependency.requirementId)
    else
      match resolve imports dependency with
      | none => .error ("Host did not admit dependency " ++ name)
      | some descriptor =>
        if sameEndpoints [endpointOf descriptor] [dependency.descriptor] = false then
          .error ("Host did not admit dependency " ++ name)
        else if descriptor.requirementId ∈ claimed then
          .error ("Host import " ++ descriptor.requirementId ++ " was claimed more than once")
        else
          match claimClients imports (descriptor.requirementId :: claimed) rest with
          | .error error => .error error
          | .ok clients => .ok ((name, descriptor) :: clients)

/-- `createDependencyClients`: the clients by name, each with its descriptor. -/
def createDependencyClients (dependencies : Dependencies) (activation : Activation) :
    Except String (List (String × ImportDescriptor)) :=
  match activation.importsUrl, activation.importsToken, activation.imports with
  | some url, some token, some imports =>
    if "http://127.0.0.1:".toList.isPrefixOf url.toList = false ∨ token.length < 16 then
      .error "Host imports activation data is invalid"
    else
      claimClients imports [] dependencies.entries
  | _, _, _ => .error "Host imports activation data is invalid"

/-- The import a dependency resolves to, if it passes all checks of its own. -/
def clientOf (imports : List ImportDescriptor) (entry : String × RawDependency) :
    Option (String × ImportDescriptor) :=
  let dependency := dependencyDefinition entry.1 entry.2
  if dependency.cardinality = .one then
    (resolve imports dependency).bind fun d =>
      if endpointOf d = dependency.descriptor then some (entry.1, d) else none
  else
    none

def requirementIds (clients : List (String × ImportDescriptor)) : List String :=
  clients.map (·.2.requirementId)

theorem claimClients_cons_ok_iff (imports : List ImportDescriptor) (claimed : List String)
    (entry : String × RawDependency) (rest : List (String × RawDependency))
    (clients : List (String × ImportDescriptor)) :
    claimClients imports claimed (entry :: rest) = .ok clients ↔
      ∃ client clients', clientOf imports entry = some client ∧
        client.2.requirementId ∉ claimed ∧
        claimClients imports (client.2.requirementId :: claimed) rest = .ok clients' ∧
        clients = client :: clients' := by
  obtain ⟨name, raw⟩ := entry
  simp only [claimClients, clientOf]
  by_cases hone : (dependencyDefinition name raw).cardinality = .one
  · grind [sameEndpoints_singleton]
  · rw [if_pos hone, if_neg hone]
    simp

/-- **The loop succeeds when every dependency resolves and no two resolve to one import.** -/
theorem claimClients_ok_iff (imports : List ImportDescriptor) (claimed : List String)
    (entries : List (String × RawDependency)) (clients : List (String × ImportDescriptor)) :
    claimClients imports claimed entries = .ok clients ↔
      entries.map (clientOf imports) = clients.map some ∧ (requirementIds clients).Nodup ∧
        ∀ id ∈ requirementIds clients, id ∉ claimed := by
  induction entries generalizing claimed clients with
  | nil =>
    cases clients with
    | nil => simp [claimClients, requirementIds]
    | cons => simp [claimClients]
  | cons entry rest ih =>
    rw [claimClients_cons_ok_iff]
    constructor
    · rintro ⟨client, clients', hclient, hfresh, hrest, rfl⟩
      obtain ⟨hmap, hnodup, hothers⟩ := (ih _ _).mp hrest
      refine ⟨by simp [hclient, hmap], List.nodup_cons.mpr ⟨fun hmem => ?_, hnodup⟩, ?_⟩
      · exact hothers _ hmem List.mem_cons_self
      · intro id hid
        rcases List.mem_cons.mp hid with rfl | hid
        · exact hfresh
        · exact fun hclaimed => hothers id hid (List.mem_cons_of_mem _ hclaimed)
    · rintro ⟨hmap, hnodup, hothers⟩
      cases clients with
      | nil => simp at hmap
      | cons client clients' =>
        simp only [List.map_cons, List.cons.injEq] at hmap
        obtain ⟨hnew, hnodup⟩ := List.nodup_cons.mp hnodup
        refine ⟨client, clients', hmap.1, hothers _ List.mem_cons_self, (ih _ _).mpr ?_, rfl⟩
        refine ⟨hmap.2, hnodup, fun id hid => ?_⟩
        rw [List.mem_cons, not_or]
        refine ⟨?_, hothers id (List.mem_cons_of_mem _ hid)⟩
        rintro rfl
        exact hnew hid

variable {clients : List (String × ImportDescriptor)} {imports imports' : List ImportDescriptor}
  {entries : List (String × RawDependency)} {client : String × ImportDescriptor}

/-- The checks of the activation itself do not concern the imports. -/
theorem createDependencyClients_ok {dependencies : Dependencies} {activation : Activation}
    (h : createDependencyClients dependencies activation = .ok clients) :
    ∃ imports, activation.imports = some imports ∧
      claimClients imports [] dependencies.entries = .ok clients ∧
      ∀ (dependencies' : Dependencies) (imports' : List ImportDescriptor),
        createDependencyClients dependencies' { activation with imports := some imports' } =
          claimClients imports' [] dependencies'.entries := by
  obtain ⟨importsUrl, importsToken, imports⟩ := activation
  rw [createDependencyClients] at h
  split at h
  · next url token imports hurl htoken himports =>
      split at h
      · cases h
      · next hcheck =>
          cases hurl
          cases htoken
          refine ⟨imports, himports, h, fun dependencies' imports' => ?_⟩
          simp only [createDependencyClients, if_neg hcheck]
  · cases h

/-! ## Order -/

theorem admittedAs_eq_some_iff (hdistinct : (imports.map (·.requirementId)).Nodup) (id : String)
    (d : ImportDescriptor) :
    admittedAs imports id = some d ↔ d ∈ imports ∧ d.requirementId = id := by
  rw [admittedAs]
  constructor
  · grind
  · rintro ⟨hmem, rfl⟩
    cases hfind : imports.reverse.find? (·.requirementId == d.requirementId) with
    | none =>
      have hnone := List.find?_eq_none.mp hfind d (List.mem_reverse.mpr hmem)
      simp at hnone
    | some d' =>
      have hmem' : d' ∈ imports := List.mem_reverse.mp (List.mem_of_find?_eq_some hfind)
      have hid : d'.requirementId = d.requirementId := by simpa using List.find?_some hfind
      rw [List.inj_on_of_nodup_map hdistinct hmem' hmem hid]

theorem onlyOne_eq_some_iff (l : List ImportDescriptor) (d : ImportDescriptor) :
    onlyOne l = some d ↔ l = [d] := by
  rcases l with - | ⟨x, - | ⟨y, rest⟩⟩ <;> simp [onlyOne]

theorem onlyOne_perm {l l' : List ImportDescriptor} (h : l.Perm l') : onlyOne l = onlyOne l' := by
  ext d
  rw [onlyOne_eq_some_iff, onlyOne_eq_some_iff, ← List.perm_singleton, ← List.perm_singleton]
  exact ⟨fun hd => h.symm.trans hd, fun hd => h.trans hd⟩

/-- What a dependency resolves to does not depend on the order of the imports. -/
theorem resolve_perm (h : imports.Perm imports') (hdistinct : (imports.map (·.requirementId)).Nodup)
    (dependency : DependencyDefinition) :
    resolve imports dependency = resolve imports' dependency := by
  have hdistinct' : (imports'.map (·.requirementId)).Nodup := (h.map _).nodup_iff.mp hdistinct
  have hexact : admittedAs imports dependency.requirementId =
      admittedAs imports' dependency.requirementId := by
    ext d
    rw [admittedAs_eq_some_iff hdistinct, admittedAs_eq_some_iff hdistinct', h.mem_iff]
  have hlegacy : onlyOne (admittedByCapability imports dependency.descriptor.capabilityId) =
      onlyOne (admittedByCapability imports' dependency.descriptor.capabilityId) :=
    onlyOne_perm (h.filter _)
  rw [resolve, resolve, hexact, hlegacy]

theorem clientOf_perm (h : imports.Perm imports')
    (hdistinct : (imports.map (·.requirementId)).Nodup) (entry : String × RawDependency) :
    clientOf imports entry = clientOf imports' entry := by
  simp only [clientOf, resolve_perm h hdistinct]

/-- A permutation of a list of present values consists of present values. -/
theorem exists_map_some_of_perm {α : Type} {l : List (Option α)} {xs : List α}
    (h : l.Perm (xs.map some)) : ∃ ys : List α, l = ys.map some ∧ ys.Perm xs := by
  refine ⟨l.filterMap id, ?_, ?_⟩
  · have hall : ∀ o ∈ l, ∃ x, o = some x := by grind
    clear h
    induction l with
    | nil => rfl
    | cons o l ih =>
      obtain ⟨x, rfl⟩ := hall o List.mem_cons_self
      have hcons : (some x :: l).filterMap id = x :: l.filterMap id := rfl
      rw [hcons, List.map_cons, ← ih fun o ho => hall o (List.mem_cons_of_mem _ ho)]
  · simpa [List.filterMap_map] using h.filterMap id

/-- **The order of the dependencies and of the imports does not matter.** -/
theorem claimClients_perm {entries' : List (String × RawDependency)}
    (himports : imports.Perm imports') (hdistinct : (imports.map (·.requirementId)).Nodup)
    (hentries : entries.Perm entries') (h : claimClients imports [] entries = .ok clients) :
    ∃ clients', claimClients imports' [] entries' = .ok clients' ∧ clients'.Perm clients := by
  obtain ⟨hmap, hnodup, -⟩ := (claimClients_ok_iff _ _ _ _).mp h
  have hsame : clientOf imports' = clientOf imports :=
    funext fun entry => (clientOf_perm himports hdistinct entry).symm
  have hperm : (entries'.map (clientOf imports')).Perm (clients.map some) := by grind
  obtain ⟨clients', hmap', hclients⟩ := exists_map_some_of_perm hperm
  refine ⟨clients', (claimClients_ok_iff _ _ _ _).mpr ⟨hmap', ?_, by simp⟩, hclients⟩
  exact (hclients.map _).nodup_iff.mpr hnodup

/-! ## Calls -/

/-- What a client reads of the context it is called with. -/
structure PluginContext where
  deadlineNanos : Option Nat
  callerInstance : Option String
  wireExtensions : Option (List BunInvocationExtension)
  deriving DecidableEq, Repr

/-- The request a client makes of a call, or the failure it answers with. The host does not read the
caller instance that goes along. -/
def clientRequest (descriptor : ImportDescriptor) (operation : String) (context : PluginContext)
    (payload : V) : Except WireFailure (ImportRequest V) :=
  if operation ∈ descriptor.operations then
    .ok ⟨descriptor.requirementId, descriptor.capabilityId, operation, context.deadlineNanos,
      context.wireExtensions.getD [], payload⟩
  else
    .error (.unknownOperation operation)

theorem clientRequest_ok {descriptor : ImportDescriptor} {operation : String}
    {context : PluginContext} {payload : V} {request : ImportRequest V}
    (h : clientRequest descriptor operation context payload = .ok request) :
    request.requirementId = descriptor.requirementId ∧
      request.capabilityId = descriptor.capabilityId ∧
      request.deadlineNanos = context.deadlineNanos := by
  rw [clientRequest] at h
  split at h
  · cases h
    exact ⟨rfl, rfl, rfl⟩
  · cases h

theorem mem_of_resolve {dependency : DependencyDefinition} {d : ImportDescriptor}
    (h : resolve imports dependency = some d) : d ∈ imports := by
  rw [resolve, Option.or_eq_some_iff] at h
  rcases h with hexact | ⟨-, hlegacy⟩
  · exact List.mem_reverse.mp (List.mem_of_find?_eq_some hexact)
  · rw [onlyOne_eq_some_iff] at hlegacy
    have hmem : d ∈ admittedByCapability imports dependency.descriptor.capabilityId := by grind
    exact List.mem_of_mem_filter hmem

theorem clientOf_eq_some {entry : String × RawDependency} (h : clientOf imports entry = some client)
    :
    client.1 = entry.1 ∧ client.2 ∈ imports ∧
      endpointOf client.2 = (dependencyDefinition entry.1 entry.2).descriptor := by
  simp only [clientOf] at h
  split at h
  · obtain ⟨d, hd, hclient⟩ := Option.bind_eq_some_iff.mp h
    split at hclient
    · grind [mem_of_resolve]
    · cases hclient
  · cases h

theorem exists_entry_of_client (h : entries.map (clientOf imports) = clients.map some)
    (hmem : client ∈ clients) : ∃ entry ∈ entries, clientOf imports entry = some client := by
  have hsome : some client ∈ entries.map (clientOf imports) := by
    rw [h]
    exact List.mem_map_of_mem hmem
  obtain ⟨entry, hentry, hclient⟩ := List.mem_map.mp hsome
  exact ⟨entry, hentry, hclient⟩

theorem names_of_clients (h : entries.map (clientOf imports) = clients.map some) :
    clients.map Prod.fst = entries.map Prod.fst := by
  induction entries generalizing clients with
  | nil =>
    cases clients with
    | nil => rfl
    | cons => cases h
  | cons entry rest ih =>
    cases clients with
    | nil => cases h
    | cons =>
      simp only [List.map_cons, List.cons.injEq] at h ⊢
      exact ⟨(clientOf_eq_some h.1).1, ih h.2⟩

/-- **The clients of a plugin's dependencies.** Each dependency has one; no two have the same
requirement; a client's descriptor is that of the contract; the order of dependencies and imports
does not matter; and what a client calls reaches only the binding of its requirement. -/
theorem dependency_clients_sound (dependencies : Dependencies) (activation : Activation)
    (imports : List ImportDescriptor) (clients : List (String × ImportDescriptor))
    (himports : activation.imports = some imports)
    (hdistinct : (imports.map (·.requirementId)).Nodup)
    (h : createDependencyClients dependencies activation = .ok clients) :
    clients.map Prod.fst = dependencies.entries.map Prod.fst ∧
    (∀ x ∈ clients, ∀ y ∈ clients, x.2.requirementId = y.2.requirementId → x = y) ∧
    (∀ client ∈ clients, client.2 ∈ imports ∧ ∃ raw, (client.1, raw) ∈ dependencies.entries ∧
      endpointOf client.2 = (dependencyDefinition client.1 raw).descriptor) ∧
    (∀ (dependencies' : Dependencies) (imports' : List ImportDescriptor),
      dependencies.entries.Perm dependencies'.entries → imports.Perm imports' →
      ∃ clients', createDependencyClients dependencies'
        { activation with imports := some imports' } = .ok clients' ∧ clients'.Perm clients) ∧
    ∀ (codecs : Codecs V N) (plan : List Dependency) (host : Imports V N),
      startHostImports codecs plan = .ok host → host.descriptors = imports →
      ∀ client ∈ clients, ∀ (operation : String) (context : PluginContext) (payload : V)
        (request : ImportRequest V), clientRequest client.2 operation context payload = .ok request →
      ∀ (kernel : Kernel) (i : Invocation V N), prepareImport kernel host.bindings request = .ok i →
      ∃ d ∈ plan, d.requirementId = client.2.requirementId ∧
        d.capabilityId = client.2.capabilityId ∧ d.handle = some i.binding.handle ∧
        ∀ d' ∈ plan, d'.requirementId = client.2.requirementId → d' = d := by
  obtain ⟨imports₁, himports₁, hclaim, hsame⟩ := createDependencyClients_ok h
  cases himports.symm.trans himports₁
  obtain ⟨hmap, hnodup, -⟩ := (claimClients_ok_iff _ _ _ _).mp hclaim
  refine ⟨names_of_clients hmap, ?_, ?_, ?_, ?_⟩
  · intro x hx y hy heq
    exact List.inj_on_of_nodup_map hnodup hx hy heq
  · intro client hclient
    obtain ⟨entry, hentry, hof⟩ := exists_entry_of_client hmap hclient
    obtain ⟨hname, hmem, hsame⟩ := clientOf_eq_some hof
    refine ⟨hmem, entry.2, ?_, ?_⟩
    · rw [hname]
      exact hentry
    · rw [hname]
      exact hsame
  · grind [claimClients_perm]
  · intro codecs plan host hhost hdescriptors client hclient operation context payload request
      hrequest kernel i hprepare
    have hbuilt := startHostImports_built hhost
    have hprepared := prepareImport_ok hprepare
    obtain ⟨hid, hcapability, -⟩ := clientRequest_ok hrequest
    obtain ⟨d, hd, hdid, hhandle, hcodec⟩ := hbuilt.bound _ _ hprepared.bound
    have hsame : d.requirementId = client.2.requirementId := hdid.trans hid
    refine ⟨d, hd, hsame, ?_, hhandle, fun d' hd' hdid' => ?_⟩
    · rw [← hcapability, ← hprepared.capability, hcodec]
    · exact List.inj_on_of_nodup_map hbuilt.distinct hd' hd (hdid'.trans hsame.symm)

/-! ## A sample plugin -/

def sampleContract : EndpointDescriptor := ⟨"example.store@1", "1.0.0", ["read"], [], []⟩

def sampleClock : EndpointDescriptor := ⟨"example.clock@1", "2.0.0", ["now"], [], []⟩

/-- Two stores by their requirement ids, and a clock that is found by its capability. -/
def sampleDependencies : Dependencies where
  entries := [("main", .declaration (some "store-1") sampleContract .one),
    ("backup", .declaration (some "store-2") sampleContract .one), ("clock", .binding sampleClock)]
  names := by decide

def sampleCodecs : Codecs Nat Nat where
  get capabilityId := some ⟨capabilityId, fun _ v => .ok v, fun _ v => .ok v, fun _ v => .ok v⟩
  keyed := by
    rintro capabilityId codec ⟨⟩
    rfl

def samplePlan : List Dependency :=
  [⟨"store-2", "example.store@1", some ⟨2, "1.0.0", ["read"]⟩⟩,
    ⟨"time", "example.clock@1", some ⟨3, "2.0.0", ["now"]⟩⟩,
    ⟨"store-1", "example.store@1", some ⟨1, "1.0.0", ["read"]⟩⟩]

def sampleImports : List ImportDescriptor :=
  [⟨"store-2", "example.store@1", "1.0.0", ["read"], [], []⟩,
    ⟨"time", "example.clock@1", "2.0.0", ["now"], [], []⟩,
    ⟨"store-1", "example.store@1", "1.0.0", ["read"], [], []⟩]

def sampleActivation : Activation :=
  ⟨some "http://127.0.0.1:4100", some "0123456789abcdef", some sampleImports⟩

theorem dependency_clients_sound_sample :
    ∃ clients host i, createDependencyClients sampleDependencies sampleActivation = .ok clients ∧
      startHostImports sampleCodecs samplePlan = .ok host ∧
      prepareImport sampleKernel host.bindings
        ⟨"store-2", "example.store@1", "read", none, [], 5⟩ = .ok i ∧
      ∃ d ∈ samplePlan, d.requirementId = "store-2" ∧ d.handle = some i.binding.handle := by
  refine ⟨_, _, _, rfl, rfl, rfl, ?_⟩
  obtain ⟨d, hd, hid, -, hhandle, -⟩ := (dependency_clients_sound sampleDependencies sampleActivation
    sampleImports _ rfl (by decide) rfl).2.2.2.2 sampleCodecs samplePlan _ rfl rfl
    ("backup", ⟨"store-2", "example.store@1", "1.0.0", ["read"], [], []⟩) (by decide) "read"
    ⟨none, none, none⟩ 5 _ rfl sampleKernel _ rfl
  exact ⟨d, hd, hid, hhandle⟩

end LensoBun.PluginV1
