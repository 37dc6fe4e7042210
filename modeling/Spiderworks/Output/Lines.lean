import Spiderworks.Store.Record
import Spiderworks.Text.Blank
import Spiderworks.Text.Lines

namespace Spiderworks

def logLines (text : String) : List String :=
  (((Text.lines text.toList).map Text.trim).filter (!·.isEmpty)).map String.ofList

def lineEntry (spider : Int) (execution : String) (level : LogLevel) (source : LogSource)
    (line : String) : NewLog :=
  ⟨spider, level, source, line, some execution⟩

-- The lines of the output come before those of the errors.
def lineEntries (spider : Int) (execution output errors : String) : List NewLog :=
  (logLines output).map (lineEntry spider execution .info .spiderOutput) ++
    (logLines errors).map (lineEntry spider execution .error .spiderError)

end Spiderworks
