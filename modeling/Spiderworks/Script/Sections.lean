import Spiderworks.Json.Printer
import Spiderworks.Script.Fragments
import Spiderworks.Text.Blank
import Spiderworks.Text.Lines
import Spiderworks.Worker.Program

namespace Spiderworks.Script

-- Constants are names with the literals that follow the equals sign. Values become JSON texts,
-- which are literals of the script language as well.
structure Sections where
  constants : List (String × List Char)
  helpers : List (List String)
  body : String
  epilogue : List String
  handler : List String

def indent : List Char := "    ".toList

-- Lines, each with its line feed.
def unlines (lines : List String) : List Char := lines.flatMap fun l => l.toList ++ ['\n']

def literal (s : String) : List Char := Json.quoted s.toList

def runConstants (spider : Int) (execution : String) (config : Json) : List (String × List Char) :=
  [("SPIDER_ID", Text.ofInt spider), ("EXECUTION_ID", literal execution),
    ("SPIDER_CONFIG_JSON", literal (Json.compact config))]

def Sections.make (mode : RunMode) (spider : Int) (execution : String) (config : Json)
    (body : String) : Sections where
  constants := runConstants spider execution config
  helpers := match mode with
    | .files => [environment, logToOutput, saveToFiles]
    | .direct => [environment, logToErrors, saveToBuffer]
  body := body
  epilogue := match mode with
    | .files => filesEpilogue
    | .direct => directEpilogue
  handler := match mode with
    | .files => filesHandler
    | .direct => directHandler

def constantLine (c : String × List Char) : List Char :=
  c.1.toList ++ " = ".toList ++ c.2 ++ ['\n']

-- Blank lines are left empty.
def indentLine (line : List Char) : List Char :=
  if Text.isBlankText line then ['\n'] else indent ++ line ++ ['\n']

def indentBody (body : String) : List Char := (Text.lines body.toList).flatMap indentLine

def guardStart : List Char :=
  "\n\ntry:\n".toList ++ indent ++ "log_message('INFO', 'Spider execution started')\n".toList

def Sections.render (s : Sections) : List Char :=
  unlines imports ++ ['\n'] ++ s.constants.flatMap constantLine ++
    s.helpers.flatMap (fun h => '\n' :: '\n' :: unlines h) ++ guardStart ++ indentBody s.body ++
    indent ++ "pass\n".toList ++ unlines s.epilogue ++ unlines s.handler

end Spiderworks.Script
