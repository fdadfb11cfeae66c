/-
Unreferenced/Main.lean

The program.  It reads an archive of a project from its standard input and
answers the command line.
-/
import Unreferenced.Archive
import Unreferenced.CommandLine.Response

namespace Unreferenced

open CommandLine

/-- A table as lines of text, the cells of a row with tabs between them. -/
def Table.lines (t : Table) : List String :=
  t.title :: (t.columns :: t.rows).map ("\t".intercalate ·)

/-- What is printed as lines of text. -/
def CommandLine.Printed.lines : Printed → List String
  | .line text => [text]
  | .table t => t.lines

/-- The wording of a failure. -/
def CommandLine.Failure.message : Failure → String
  | .database e => e.message
  | .violation v => v.message

/-- The host of a run over an archive.  It gets through every translation unit. -/
def Archive.host (a : Archive) : Host where
  processors := a.processors
  jsonNesting := 1000

/-- The response to a command line over the text of an archive. -/
def answer (arguments : List String) (text : String) : Response :=
  match invocation arguments with
  | .error e => { exitCode := 2, errors := [errorWord ++ e.message] }
  | .ok i =>
    match Archive.read? text with
    | none => failed "the project archive on the standard input is not JSON"
    | some a =>
      match respond a.host a.fileSystem (.of a.host.processors a.environment "") i with
      | .ok r => r
      | .error f => failed f.message

end Unreferenced

/-- The text that is left on a stream. -/
partial def Unreferenced.readAll (stream : IO.FS.Stream) (read : String) : IO String := do
  let line ← stream.getLine
  if line.isEmpty then return read
  readAll stream (read ++ line)

open Unreferenced in
/-- Answer the command line and give the exit code. -/
def main (arguments : List String) : IO UInt32 := do
  let text ← readAll (← IO.getStdin) ""
  let r := answer arguments text
  for line in r.errorLines do
    IO.eprintln line
  for item in r.output do
    for line in item.lines do
      IO.println line
  return UInt32.ofNat r.exitCode
