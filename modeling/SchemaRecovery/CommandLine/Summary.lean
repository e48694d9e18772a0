/-
  SchemaRecovery.CommandLine.Summary

  What the command tells of the files it wrote: a heading and a table. The
  names in the table are read as marked-up text.
-/
import SchemaRecovery.CommandLine.Markup
import SchemaRecovery.CommandLine.Table
import SchemaRecovery.OutputFile.Plan

namespace SchemaRecovery.CommandLine.Summary

/-- The heading of the summary. -/
def heading : Text := "Files"

/-- The columns of the table. -/
def columns : List (Text × Alignment) :=
  [("File", .left), ("Package", .left), ("Namespace", .left), ("Messages", .right),
    ("Enums", .right)]

/-- What the table tells of a file. -/
def cells (f : OutputFile) : List Text :=
  [f.fileName, f.packageName, f.ns.text, toString f.messages.length, toString f.enums.length]

/-- The table of some files; fails if a name is no marked-up text. -/
def table? (files : List OutputFile) : Option Table := do
  let rows ← files.mapM fun f => (cells f).mapM Markup.shown
  return { columns, rows }

/-- The lines of the table; fails also if a name asks for a style in which no
text can be shown. -/
def tableLines (files : List OutputFile) : Option (List Text) := do
  let table ← table? files
  if table.styles.all Markup.isShowable then some table.lines else none

end SchemaRecovery.CommandLine.Summary
