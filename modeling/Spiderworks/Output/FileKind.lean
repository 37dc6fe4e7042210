import Spiderworks.Disk.Path
import Spiderworks.Text.Blank

namespace Spiderworks

inductive FileKind where
  | csv
  | json
  | text
  | log
  | image
  | pdf
  | excel
  | html
  | xml
  | unknown
  deriving DecidableEq, Repr

namespace FileKind

def name : FileKind → String
  | .csv => "csv"
  | .json => "json"
  | .text => "text"
  | .log => "log"
  | .image => "image"
  | .pdf => "pdf"
  | .excel => "excel"
  | .html => "html"
  | .xml => "xml"
  | .unknown => "unknown"

-- Extensions are in lower case.
def ofExtension : String → FileKind
  | "csv" => .csv
  | "json" => .json
  | "txt" => .text
  | "log" => .log
  | "jpg" | "jpeg" | "png" | "gif" => .image
  | "pdf" => .pdf
  | "xlsx" | "xls" => .excel
  | "html" => .html
  | "xml" => .xml
  | _ => .unknown

def ofFilename (filename : String) : FileKind :=
  match Path.extension? filename with
  | some e => ofExtension (Text.asciiLowerString e)
  | none => .unknown

end FileKind

end Spiderworks
