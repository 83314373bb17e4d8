import SetQuery.Config
import SetQuery.Yaml.Reader

/-!
# Reading a configuration

A configuration is a YAML document. The names of backends in it are brought into their normal form,
so that two spellings of one name are one backend.
-/

namespace SetQuery

open Yaml Yaml.Cursor

namespace Override

/-- The field that sets an operation. -/
def settingField (op : SetOp) : RecordField Override :=
  .of op.key (readOption (readName Setting.options)) fun o setting =>
    { o with settings := o.settings.set op setting }

/-- The fields of an override. -/
def fields : List (RecordField Override) :=
  .of "dialect" (readOption (readName Dialect.options)) (fun o d => { o with dialect := d }) ::
    SetOp.every.map settingField ++
    [.of "subquery_order_supported" (readOption readBool) fun o b => { o with subqueryOrder := b }]

/-- Reads an override. -/
def reader : Reader Override := readRecord "BackendOverride" fields {}

end Override

namespace Config

/-- The normal form of the name of a backend. -/
def readBackendName (c : Cursor) (text : String) : Except Yaml.Error String :=
  match BackendName.ofText? text with
  | some name => .ok name.text
  | none => c.fault .blankBackendName

/-- The fields of a configuration. -/
def fields : List (RecordField Config) :=
  [ .of "backends" (readMapAs readBackendName Override.reader) fun c backends =>
      { c with backends := backends },
    .of "order_policy" (readName OrderPolicy.options) fun c policy =>
      { c with orderPolicy := policy } ]

/-- Reads a configuration. -/
def reader : Reader Config := readRecord "Config" fields {}

/-- The configuration that a text gives. -/
def ofYaml (text : String) : Except ConfigError Config :=
  match Yaml.read reader text with
  | .error fault => .error (.yaml fault)
  | .ok config => config.check

end Config

end SetQuery
