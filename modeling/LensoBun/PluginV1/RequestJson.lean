import LensoBun.Lib.Doubles
import LensoBun.PluginV1.Server

set_option autoImplicit false

/-! # A request between the host's JSON and the child's

The host serialises a `WireRequest` with `serde_json`, which writes a 64-bit integer digit by digit.
The child reads the text with `JSON.parse`, for which every number is a double, and checks the
result field by field with `validWireRequest`. Here are both sides: the tree the host writes, what
the parse makes of it, and the check over the parsed tree, with every test of a type that the
model of the server takes for granted.

The payload is not looked at on this way and stays a leaf of the tree. All numbers outside it are
integers that are not negative.
-/

namespace LensoBun.PluginV1.Server

open Lib

/-- A JSON tree, around values of `V` that are not taken apart. -/
inductive Json (V : Type) where
  | null
  | boolean (b : Bool)
  | number (n : Nat)
  | string (s : String)
  | array (items : List (Json V))
  | object (fields : List (String × Json V))
  | value (v : V)

namespace Json

variable {V : Type}

/-! ## Serialisation -/

/-- `None` is written as `null`. -/
def ofOption {α : Type} (f : α → Json V) (x : Option α) : Json V := x.elim .null f

def ofExtension (e : BunInvocationExtension) : Json V :=
  .object
    [("key", .string e.key),
      ("value", .array (e.value.map fun byte => .number byte.toNat)),
      ("issuer", ofOption .string e.issuer),
      ("audience", .array (e.audience.map .string)),
      ("proof", ofOption .string e.proof),
      ("sealed", .boolean e.isSealed)]

def ofWireRequest (r : WireRequest V) : Json V :=
  .object
    [("request_id", .number r.requestId),
      ("capability_id", .string r.capabilityId),
      ("operation", .string r.operation),
      ("deadline_nanos", ofOption .number r.deadlineNanos),
      ("caller_instance", ofOption .string r.callerInstance),
      ("session", ofOption .string r.session),
      ("extensions", .array (r.extensions.map ofExtension)),
      ("payload", .value r.payload)]

/-! ## `JSON.parse` -/

mutual

/-- The tree as the child reads it: every number becomes a double. -/
def parse : Json V → Json V
  | .number n => .number (toDouble n)
  | .array items => .array (parseItems items)
  | .object fields => .object (parseFields fields)
  | .null => .null
  | .boolean b => .boolean b
  | .string s => .string s
  | .value v => .value v

def parseItems : List (Json V) → List (Json V)
  | [] => []
  | item :: items => item.parse :: parseItems items

def parseFields : List (String × Json V) → List (String × Json V)
  | [] => []
  | (key, field) :: fields => (key, field.parse) :: parseFields fields

end

/-- A property of a value, `none` where JavaScript has `undefined`. -/
def property (key : String) : Json V → Option (Json V)
  | .object fields => fields.lookup key
  | _ => none

theorem lookup_parseFields (key : String) (fields : List (String × Json V)) :
    (parseFields fields).lookup key = (fields.lookup key).map parse := by
  induction fields with
  | nil => simp [parseFields]
  | cons field fields ih => grind [parseFields]

/-- The parse changes the properties of a value and not which there are. -/
theorem property_parse (key : String) (j : Json V) :
    j.parse.property key = (j.property key).map parse := by
  cases j with
  | object => simp only [parse, property, lookup_parseFields]
  | _ => simp only [parse, property, Option.map_none]

/-! ## The check of the child -/

/-- `Number.isSafeInteger(value) && value >= 0`. -/
def isSafeInteger : Json V → Bool
  | .number n => n ≤ maxSafeInteger
  | _ => false

def isString : Json V → Bool
  | .string _ => true
  | _ => false

def isArray : Json V → Bool
  | .array _ => true
  | _ => false

/-- `value == null`: `null` or `undefined`. -/
def isNullish : Option (Json V) → Bool
  | none | some .null => true
  | _ => false

/-- `value == null || p(value)`. -/
def nullable (p : Json V → Bool) (value : Option (Json V)) : Bool := isNullish value || value.any p

/-- `isRequestId`. -/
def isRequestId (value : Option (Json V)) : Bool := value.any isSafeInteger

/-- `request.session === session`, where either side may be `undefined`. -/
def isSession (session : Option String) : Option (Json V) → Bool
  | none => session.isNone
  | some (.string s) => session == some s
  | _ => false

/-- `validWireRequest`, of any value in place of the request. -/
def validWireRequest (request : Json V) (session : Option String) : Bool :=
  isRequestId (request.property "request_id") &&
    (request.property "capability_id").any isString &&
    (request.property "operation").any isString &&
    isSession session (request.property "session") &&
    nullable isSafeInteger (request.property "deadline_nanos") &&
    nullable isString (request.property "caller_instance") &&
    (request.property "extensions").all isArray

/-- The number of nanoseconds in `request.deadline_nanos` that `startDeadline` and
`invocationContext` go on with. -/
def deadlineOf (request : Json V) : Option Nat :=
  match request.property "deadline_nanos" with
  | some (.number n) => some n
  | _ => none

/-! ## What arrives -/

/-- The request with its numbers as the child has them. -/
def asRead (r : WireRequest V) : WireRequest V :=
  { r with requestId := toDouble r.requestId, deadlineNanos := r.deadlineNanos.map toDouble }

@[simp] theorem parse_ofOption {α : Type} (f : α → Json V) (x : Option α) :
    (ofOption f x).parse = ofOption (fun a => (f a).parse) x := by
  cases x with
  | none => rfl
  | some => rfl

theorem deadlineOf_ofWireRequest (r : WireRequest V) :
    deadlineOf (ofWireRequest r).parse = (asRead r).deadlineNanos := by
  have hproperty : (ofWireRequest r).parse.property "deadline_nanos" =
      some (ofOption (fun n => .number (toDouble n)) r.deadlineNanos) := by
    rw [property_parse]
    simp [ofWireRequest, property, List.lookup_cons, parse]
  rw [deadlineOf, hproperty]
  cases hd : r.deadlineNanos with
  | none | some => simp [asRead, ofOption, hd]

/-- An optional field passes where its value does, or has none. -/
theorem nullable_ofOption {α : Type} {p : Json V → Bool} {f : α → Json V}
    (hf : ∀ a, isNullish (some (f a)) = false) (x : Option α) :
    nullable p (some (ofOption f x)) = x.all fun a => p (f a) := by
  cases x with
  | none => rfl
  | some a =>
    show (isNullish (some (f a)) || p (f a)) = p (f a)
    rw [hf, Bool.false_or]

theorem isSession_ofOption (session : String) (x : Option String) :
    isSession (some session) (some (ofOption .string x : Json V)) = (x == some session) := by
  cases x with
  | none => rfl
  | some => exact BEq.comm

theorem toDouble_isSafe (n : Nat) : toDouble n ≤ maxSafeInteger ↔ n < 2 ^ 53 := by
  rw [← toDouble_lt_iff, maxSafeInteger]
  omega

/-- **The requests of the host that the child accepts.** What the host serialises passes every test
of a type; the two numbers pass where they are below `2 ^ 53`. -/
theorem validWireRequest_iff (session : String) (r : WireRequest V) :
    validWireRequest (ofWireRequest r).parse (some session) = true ↔
      r.requestId < 2 ^ 53 ∧ r.session = some session ∧ ∀ n, r.deadlineNanos = some n → n < 2 ^ 53 := by
  have hcaller : nullable isString (some (ofOption .string r.callerInstance : Json V)) = true := by
    rw [nullable_ofOption fun _ => rfl]
    cases r.callerInstance <;> rfl
  have hdeadline : nullable isSafeInteger
      (some (ofOption (fun n => .number (toDouble n)) r.deadlineNanos : Json V)) =
        r.deadlineNanos.all fun n => toDouble n ≤ maxSafeInteger := by
    rw [nullable_ofOption fun _ => rfl]
    rfl
  simp only [validWireRequest, property_parse]
  simp only [ofWireRequest, property, List.lookup_cons, String.reduceBEq, Option.map_some, parse,
    parse_ofOption, isSession_ofOption, hdeadline, hcaller]
  simp [isRequestId, isSafeInteger, isString, isArray, toDouble_isSafe, Option.all_eq_true, and_assoc]

/-- The check of the parsed tree is the server's check of the request with its numbers as they are
read. -/
theorem validWireRequest_eq_server (s : Shared) (session : String) (r : WireRequest V) :
    validWireRequest (ofWireRequest r).parse (some session) =
      Server.validWireRequest { s with session := some session } (asRead r) := by
  rw [Bool.eq_iff_iff, validWireRequest_iff]
  simp [Server.validWireRequest, asRead, toDouble_isSafe, Option.all_eq_true, and_assoc]

/-- What the child reads when the host sends it a request of a context in its session. -/
def requestRead (c : InvocationContext) (capabilityId operation session : String) (payload : V) :
    Json V :=
  (ofWireRequest { wireRequest c capabilityId operation payload with session := some session }).parse

/-- **The child accepts a request of the host and goes on with its deadline** when the deadline is
below `2 ^ 53` nanoseconds. -/
theorem request_is_accepted (c : InvocationContext) (capabilityId operation session : String)
    (payload : V) (hid : c.requestId < 2 ^ 53) (hdeadline : ∀ d, c.deadline = some d → d < 2 ^ 53) :
    validWireRequest (requestRead c capabilityId operation session payload) (some session) = true ∧
      deadlineOf (requestRead c capabilityId operation session payload) =
        deadlineNanos c.deadline := by
  have hencoded : ∀ n, deadlineNanos c.deadline = some n → n < 2 ^ 53 := by
    intro n hn
    obtain ⟨d, hd, rfl⟩ := Option.map_eq_some_iff.mp hn
    exact lt_of_le_of_lt (Nat.min_le_left _ _) (hdeadline d hd)
  constructor
  · exact (validWireRequest_iff session _).mpr ⟨hid, rfl, hencoded⟩
  · rw [requestRead, deadlineOf_ofWireRequest]
    show (deadlineNanos c.deadline).map toDouble = deadlineNanos c.deadline
    cases hn : deadlineNanos c.deadline with
    | none => rfl
    | some n => rw [Option.map_some, toDouble_of_lt (hencoded n hn)]

/-- A context without extensions and with the given deadline. -/
def plainContext (deadline : Option Nat) : InvocationContext where
  requestId := 1
  deadline := deadline
  remainingBudget := none
  callerInstance := none
  extensions := []
  sealedExtensions := []
  distinct := List.nodup_nil
  named := List.not_mem_nil

/-- Five seconds. -/
theorem request_is_accepted_sample :
    validWireRequest (requestRead (plainContext (some 5000000000)) "acme.greeting" "greet" "s" ())
        (some "s") = true ∧
      deadlineOf (requestRead (plainContext (some 5000000000)) "acme.greeting" "greet" "s" ()) =
        some 5000000000 :=
  request_is_accepted (plainContext (some 5000000000)) "acme.greeting" "greet" "s" () (by decide)
    fun d hd => by
      cases hd
      decide

/-- A deadline of `2 ^ 53` nanoseconds, which is 104 days, is written as that number and makes the
child refuse the request; with the largest duration, encoded as `2 ^ 64 - 1`, it also reads another
number than the one encoded. -/
theorem long_deadline_is_refused :
    (plainContext (some (2 ^ 53))).requestId < 2 ^ 53 ∧
      validWireRequest (requestRead (plainContext (some (2 ^ 53))) "acme.greeting" "greet" "s" ())
        (some "s") = false ∧
      deadlineNanos (plainContext (some (2 ^ 64))).deadline = some (2 ^ 64 - 1) ∧
      validWireRequest (requestRead (plainContext (some (2 ^ 64))) "acme.greeting" "greet" "s" ())
        (some "s") = false ∧
      deadlineOf (requestRead (plainContext (some (2 ^ 64))) "acme.greeting" "greet" "s" ()) =
        some (2 ^ 64) := by
  decide +kernel

end Json

end LensoBun.PluginV1.Server
