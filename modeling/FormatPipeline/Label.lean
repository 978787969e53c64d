/-! The labels under which work is shown as being in progress. -/

namespace FormatPipeline.Label

/-- The label of all formatters that run on a document. -/
def chain (displayPath : String) : String := "Formatters on " ++ displayPath

/-- The label of one formatter that runs on a document. -/
def step (formatter displayPath : String) : String := formatter ++ " on " ++ displayPath

end FormatPipeline.Label
