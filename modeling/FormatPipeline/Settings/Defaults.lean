import FormatPipeline.Json.Value
import FormatPipeline.Profile
import FormatPipeline.Settings.Key

/-! The values that settings have before anyone sets them. -/

namespace FormatPipeline.Settings

open Json (Value putMember)

/-- The formatters that are run, in this order, as far as they are known. -/
def preferredOrder : List String := ["isort", "black"]

/-- The settings of one formatter with their default values. -/
def formatterDefaults (profile : Profile) : List (String × Value) := [
  (Slot.localBins.keyOf profile.name, .ofStrings profile.localBins),
  (Slot.localArguments.keyOf profile.name, .ofStrings []),
  (Slot.localConfigs.keyOf profile.name, .ofStrings profile.localConfigs),
  (Slot.globalBinPath.keyOf profile.name, .string ""),
  (Slot.globalArguments.keyOf profile.name, .ofStrings []),
  (Slot.globalConfigs.keyOf profile.name, .ofStrings [])]

/-- The settings that belong to no formatter with their default values. -/
def generalDefaults (profiles : List Profile) : List (String × Value) :=
  let order := preferredOrder.filter fun name => profiles.any (·.name == name)
  [(formatOrderKey, .ofStrings order),
   (onSaveEnabledKey, .bool false),
   (saveOrderKey, .ofStrings order),
   (errorHandlingKey, .string "default"),
   (busySignalKey, .bool true),
   (statusBarKey, .bool true)]

/-- All settings with their default values; of two with one key the later value counts. -/
def defaults (profiles : List Profile) : List (String × Value) :=
  (generalDefaults profiles ++ profiles.flatMap formatterDefaults).foldl
    (fun entries entry => putMember entry.1 entry.2 entries) []

end FormatPipeline.Settings
