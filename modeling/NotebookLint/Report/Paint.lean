/-! Text with terminal colours. -/
namespace NotebookLint.Report

inductive Colour where
  | red
  | green
  | yellow
  deriving DecidableEq, Repr

def escape (code : String) : String :=
  "\x1b[" ++ code ++ "m"

def Colour.code : Colour → String
  | red => "31"
  | green => "32"
  | yellow => "33"

def coloured (colour : Colour) (text : String) : String :=
  escape colour.code ++ text ++ escape "39"

def bold (text : String) : String :=
  escape "1" ++ text ++ escape "0"

/-- The style of headings: the colour inside, bold outside. -/
def strong (colour : Colour) (text : String) : String :=
  bold (coloured colour text)

end NotebookLint.Report
