/-! The names of the settings. -/

namespace FormatPipeline.Settings

/-- The setting that orders the formatters of the format command. -/
def formatOrderKey : String := "formatOrder"

/-- The setting that turns formatting on save on and off. -/
def onSaveEnabledKey : String := "onSave.enabled"

/-- The setting that orders the formatters that run on save. -/
def saveOrderKey : String := "onSave.saveOrder"

/-- The setting that says how problems are shown. -/
def errorHandlingKey : String := "errorHandling"

/-- The setting that turns the busy signal on and off. -/
def busySignalKey : String := "busySignal"

/-- The setting that turns the status tile on and off. -/
def statusBarKey : String := "statusBar"

/-- The key of a setting that belongs to one formatter. -/
def formatterKey (formatter key : String) : String := formatter ++ "." ++ key

/-- The settings that each formatter has. -/
inductive Slot where
  | localBins | localArguments | localConfigs | globalBinPath | globalArguments | globalConfigs
  deriving DecidableEq, Repr

/-- The part of a slot's key behind the formatter's name. -/
def Slot.key : Slot → String
  | .localBins => "local.bins"
  | .localArguments => "local.cmdArgs"
  | .localConfigs => "local.configs"
  | .globalBinPath => "global.binPath"
  | .globalArguments => "global.cmdArgs"
  | .globalConfigs => "global.configs"

/-- The key of a formatter's slot. -/
def Slot.keyOf (slot : Slot) (formatter : String) : String := formatterKey formatter slot.key

/-- Which of the two lists of formatters is meant. -/
inductive OrderKind where
  | format | save
  deriving DecidableEq, Repr

/-- The setting of a list of formatters. -/
def OrderKind.key : OrderKind → String
  | .format => formatOrderKey
  | .save => saveOrderKey

end FormatPipeline.Settings
