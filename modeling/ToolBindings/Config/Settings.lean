import ToolBindings.Config.Field
import ToolBindings.Config.Placeholder
import ToolBindings.Data.Merge

/-!
# Settings

The settings of a project: its servers as they are written, the retry values of the whole package,
and where generated modules go. They are read from two layers of configuration, the local one over
the global one, after the placeholders in their texts are replaced.
-/

namespace ToolBindings

/-- Where generated modules are written, and the dotted name that they are imported under. -/
structure GeneratedSettings where
  path : String
  namespaceName : String
deriving DecidableEq

/-- The settings of a project. No two servers have the same slug. -/
structure Settings where
  servers : Entries String ConfigValue
  nodup : (Entries.keys servers).Nodup
  retry : Entries String ConfigValue
  generated : GeneratedSettings

namespace GeneratedSettings

/-- Used when nothing is said. -/
def default : GeneratedSettings := ⟨"generated_tools", "generated_tools"⟩

/-- The settings in a map. -/
def ofFields (fields : ConfigFields) : Field.Checked GeneratedSettings :=
  match Field.text "path" default.path fields,
      Field.text "namespace" default.namespaceName fields with
  | .ok path, .ok namespaceName => .ok ⟨path, namespaceName⟩
  | path, namespaceName => .error (Field.faults path ++ Field.faults namespaceName)

/-- The settings under their key, with the places of faults inside it. -/
def ofConfig (fields : ConfigFields) : Field.Checked GeneratedSettings :=
  match ConfigValue.get? "generated" fields with
  | none => .ok default
  | some (.map inner) =>
    match ofFields inner with
    | .ok settings => .ok settings
    | .error faults => .error (faults.map fun f => ⟨"generated" :: f.location, f.kind⟩)
  | some _ => .error (Field.fault "generated" "model_type")

end GeneratedSettings

namespace Settings

/-- The built-in retry values. -/
def builtInRetry : Entries String Int :=
  [("attempts", 1), ("backoff_ms", 100), ("max_backoff_ms", 1000)]

/-- The retry values of a package that sets none. -/
def defaultRetry : Entries String ConfigValue := builtInRetry.map fun (key, n) => (key, .int n)

/-- The settings in a map, or every place where it does not fit. -/
def ofFields (fields : ConfigFields) : Field.Checked Settings :=
  match Field.map "servers" [] fields, Field.map "retry" defaultRetry fields,
      GeneratedSettings.ofConfig fields with
  | .ok servers, .ok retry, .ok generated =>
    .ok ⟨Entries.ofList servers, Entries.nodup_keys_ofList servers, retry, generated⟩
  | servers, retry, generated =>
    .error (Field.faults servers ++ Field.faults retry ++ Field.faults generated)

/-- A map of settings that cannot be used: some keys are no texts, or some values do not fit. -/
inductive Misfit where
  | keys
  | fields (faults : List FieldFault)

/-- The settings in a map whose keys are all texts. -/
def ofConfig (fields : ConfigFields) : Except Misfit Settings :=
  if Field.allText fields then
    match ofFields fields with
    | .ok settings => .ok settings
    | .error faults => .error (.fields faults)
  else .error .keys

/-- The local layer over the global one, with placeholders replaced. -/
def mergedFields (environment : Environment) (globalLayer localLayer : ConfigFields) :
    ConfigFields :=
  Data.mapTextsFields (Placeholder.resolve environment) (Data.mergeFields globalLayer localLayer)

/-- The settings of merged layers. -/
def ofMerged (fields : ConfigFields) : Except Fault Settings :=
  match ofConfig fields with
  | .ok settings => .ok settings
  | .error .keys => .error (.crash .wrongType)
  | .error (.fields faults) => .error (.ofConfiguration (.invalid faults))

end Settings
end ToolBindings
