import SetQuery.Backend
import SetQuery.Dialect
import SetQuery.Json.Reader
import SetQuery.SetOp
import SetQuery.SortedMap
import SetQuery.Yaml.Error

/-!
# Capability configuration

A configuration overrides what is known about backends, entry by entry, and says what to do with
an ordering that a backend cannot express. `Config.check` refuses to ask for an emulation of an
operation that has none.
-/

namespace SetQuery

/-- How an operation is to be treated. -/
inductive Setting
  | supported
  | unsupported
  | emulated
deriving DecidableEq, Repr, Inhabited

/-- The settings with their names. -/
def Setting.options : List (String × Setting) :=
  [("supported", .supported), ("unsupported", .unsupported), ("emulated", .emulated)]

/-- The name of the setting. -/
def Setting.name : Setting → String
  | .supported => "supported"
  | .unsupported => "unsupported"
  | .emulated => "emulated"

/-- What to do with the ordering of an operand on a backend that rejects it there. -/
inductive OrderPolicy
  /-- Leave the ordering out and say so. -/
  | drop
  /-- Refuse to compile. -/
  | strict
deriving DecidableEq, Repr, Inhabited

/-- The policies with their names. -/
def OrderPolicy.options : List (String × OrderPolicy) := [("drop", .drop), ("strict", .strict)]

/-- The name of the policy. -/
def OrderPolicy.name : OrderPolicy → String
  | .drop => "drop"
  | .strict => "strict"

/-- The key of an operation in a capability table. -/
def SetOp.key (op : SetOp) : String := op.kind.name ++ "_" ++ op.multiplicity.name

/-! ## Overrides -/

/-- The entries of a capability table that a configuration sets; an absent one is left alone. -/
structure Override where
  dialect : Option Dialect := none
  settings : PerOp (Option Setting) := PerOp.const none
  subqueryOrder : Option Bool := none
deriving DecidableEq, Repr, Inhabited

namespace Override

/-- The keys of an override. -/
def keys : List String :=
  "dialect" :: SetOp.every.map SetOp.key ++ ["subquery_order_supported"]

/-- The override as JSON. -/
def toJson (o : Override) : Json :=
  .object (("dialect", Json.ofOption (fun d => .string d.name) o.dialect) ::
    SetOp.every.map (fun op =>
      (op.key, Json.ofOption (fun s => .string s.name) (o.settings.get op))) ++
    [("subquery_order_supported", Json.ofOption .bool o.subqueryOrder)])

/-- The override with the value of one key, or what is wrong with the key or the value. -/
def withMember (o : Override) (key : String) (value : Json) : Except ShapeError Override :=
  if key = "dialect" then
    (Json.readOption (Json.readName Dialect.options) value).map fun d => { o with dialect := d }
  else if key = "subquery_order_supported" then
    (Json.readOption Json.readBool value).map fun b => { o with subqueryOrder := b }
  else match SetOp.every.find? (·.key = key) with
    | some op => (Json.readOption (Json.readName Setting.options) value).map fun s =>
        { o with settings := o.settings.set op s }
    | none => .error (.unknownField key keys)

/-- The override that a JSON value stands for. An array lists the values of the keys in order. -/
def ofJson : Json → Except ShapeError Override
  | .object members => members.foldlM (fun o (key, value) => o.withMember key value) {}
  | .array items => do
    let o ← (keys.zip items).foldlM (fun (o : Override) (key, value) => o.withMember key value) {}
    if items.length ≤ keys.length then return o
    else .error (.invalidLength items.length "fewer elements in array")
  | other => .error (.invalidType other.found "struct BackendOverride")

end Override

/-! ## Configurations -/

/-- Overrides by the name of the backend, and the order policy. -/
structure Config where
  backends : SortedMap Override := .empty
  orderPolicy : OrderPolicy := .drop
deriving Repr, Inhabited

/-- Why there is no usable configuration. -/
inductive ConfigError
  | notFound (path : String)
  /-- An emulation is asked for that does not exist. -/
  | noEmulation (backend key : String)
  /-- A backend that is not built in has no dialect. -/
  | noDialect (backend : String)
  | unreadable (path reason : String)
  | yaml (fault : Yaml.Error)
deriving DecidableEq, Repr

namespace ConfigError

/-- What is wrong with a value of the configuration. -/
def invalid (text : String) : String := "[E002] Invalid config: " ++ text

/-- The text of the error. -/
def message : ConfigError → String
  | .notFound path => "[E001] Config file not found: " ++ path
  | .noEmulation backend key => invalid ("backend '" ++ backend ++ "': '" ++ key ++
      "' has no emulation, use supported or unsupported")
  | .noDialect backend =>
    invalid ("backend '" ++ backend ++ "' is not built in and must set 'dialect'")
  | .unreadable path reason => "[E005] Failed to read '" ++ path ++ "': " ++ reason
  | .yaml fault => "[E006] YAML parse error: " ++ fault.message

/-- The text of the error and behind it those of its causes. -/
def chain (e : ConfigError) : List String :=
  match e with
  | .unreadable _ reason => [e.message, reason]
  | .yaml fault => [e.message, fault.message]
  | _ => [e.message]

end ConfigError

namespace Config

/-- The operations that cannot be emulated, in the order in which they are checked. -/
def withoutEmulation : List SetOp :=
  [⟨.union, .all⟩, ⟨.intersect, .distinct⟩, ⟨.except, .distinct⟩]

/-- The first operation of an override for which an emulation is asked but does not exist. -/
def badEmulation? (o : Override) : Option SetOp :=
  withoutEmulation.find? fun op => o.settings.get op = some .emulated

/-- The configuration, if it asks for no emulation that does not exist. -/
def check (c : Config) : Except ConfigError Config :=
  let fault? := c.backends.entries.findSome? fun (name, o) =>
    (badEmulation? o).map fun op => ConfigError.noEmulation name op.key
  match fault? with
  | some fault => .error fault
  | none => .ok c

end Config

end SetQuery
