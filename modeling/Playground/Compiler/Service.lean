import Playground.Compiler.Pipeline
import Playground.Compiler.Resolve
import Playground.Compiler.VirtualHost
import Playground.Text.Position

/-!
# Compiler services

A service checks the text being edited and emits a script, in a dialog with its host.
`Toolchain.service` is the service over given tools for the language: it reports every problem
and writes the output file, once, only if there are none.  `compile` is one pass of a service over
the virtual host, which captures what is written.
-/

namespace Playground.Compiler

open Playground.Script Playground.Text

/-! ### Diagnostics -/

/-- How bad a diagnostic is; either kind blocks the emit. -/
inductive Severity where
  | error | warning
deriving DecidableEq, Inhabited, Repr

/-- The name of a severity. -/
def Severity.name : Severity → String
  | .error => "error" | .warning => "warning"

/-- A message about a file. -/
structure Diagnostic where
  file : String
  message : String
  position : Option Position := none
  severity : Severity := .error
deriving DecidableEq, Inhabited, Repr

namespace Diagnostic

/-- The same message at a byte offset of the file's text. -/
def atOffset (d : Diagnostic) (source : String) (offset : Nat) : Diagnostic :=
  { d with position := some (Position.ofOffset source offset) }

/-- A message with the offsets it is about, of which the first counts. -/
def labelled (file source message : String) (severity : Severity) (labels : List Nat) :
    Diagnostic :=
  let d : Diagnostic := { file, message, severity }
  match labels with
  | offset :: _ => d.atOffset source offset
  | [] => d

@[simp] theorem labelled_message (file source message : String) (severity : Severity)
    (labels : List Nat) : (labelled file source message severity labels).message = message := by
  cases labels <;> rfl

/-- The diagnostic on one line. -/
def text (d : Diagnostic) : String :=
  match d.position with
  | some p =>
    d.file ++ "(" ++ toString p.line ++ "," ++ toString p.column ++ "): " ++
      d.severity.name ++ ": " ++ d.message
  | none => d.file ++ ": " ++ d.severity.name ++ ": " ++ d.message

end Diagnostic

/-! ### Services -/

/-- Why a pass could not be run to its end. -/
inductive CompileError where
  | sourceNotFound (path : String)
  | target (reason : String)
  | transform (error : TransformError)
deriving DecidableEq, Inhabited, Repr

/-- The reason on one line. -/
def CompileError.text : CompileError → String
  | .sourceNotFound path => "source file \x60" ++ path ++ "\x60 could not be resolved"
  | .target reason => "unsupported target: " ++ reason
  | .transform e => e.text

/-- What a pass that was run to its end reports. -/
structure EmitReport where
  diagnostics : List Diagnostic := []
  /-- nothing was written -/
  skipped : Bool := false
deriving DecidableEq, Inhabited, Repr

/-- How a service may answer. -/
inductive EmitAnswer where
  | finished (report : EmitReport)
  | refused (error : CompileError)
  /-- it broke down, with a message if there was one -/
  | crashed (message : Option String)
deriving DecidableEq, Inhabited, Repr

/-- Checks the text being edited and emits a script. -/
abbrev Service := CompilerOptions → Pipeline → Dialog EmitAnswer

/-- What a service needs to know about the language. -/
structure Toolchain where
  /-- what is wrong with a program that could be read -/
  earlyFaults : Dialect → Parsed → List Fault
  /-- erases types and lowers syntax that the target lacks -/
  lower : CompilerOptions → Draft → Except (List Fault) Draft
  /-- the script of a program -/
  print : Draft → String

/-- The diagnostics of some faults of a file. -/
def Diagnostic.ofFaults (file source : String) (faults : List Fault) : List Diagnostic :=
  faults.map fun f =>
    Diagnostic.labelled file source f.message (if f.isWarning then .warning else .error) f.labels

/-- The syntax errors of a file. -/
def SourceFile.diagnostics (f : SourceFile) : List Diagnostic :=
  Diagnostic.ofFaults f.path f.text f.parsed.faults

namespace Toolchain

variable (tools : Toolchain)

/-- What is wrong with the file itself. -/
def ownFaults (root : SourceFile) : List Diagnostic :=
  root.diagnostics ++
    -- only a program that could be read is looked through further
    if root.parsed.faults.isEmpty then
      Diagnostic.ofFaults root.path root.text
        (tools.earlyFaults (dialectOf root.path) root.parsed)
    else []

/-- Checks that the default library is there. -/
def checkLibrary (options : CompilerOptions) : Dialog (List Diagnostic) := do
  if options.noLib then return []
  let lib ← Dialog.askLibrary options
  if ← Dialog.askExists lib then return []
  return [{ file := lib, message := "File '" ++ lib ++ "' not found." }]

/-- The diagnostic of a specifier that leads nowhere. -/
def unresolved (root : SourceFile) (s : Specifier) : Diagnostic :=
  let message :=
    "Cannot find module '" ++ s.value ++ "' or its corresponding type declarations."
  ({ file := root.path, message } : Diagnostic).atOffset root.text s.offset

/-- Checks some specifiers; a file that several of them lead to is read once. -/
def checkSpecifiers (paths : List (String × List String)) (root : SourceFile) :
    List Specifier → List String → Dialog (List Diagnostic)
  | [], _ => return []
  | s :: rest, visited => do
    match ← resolve paths s.value with
    | none => return unresolved root s :: (← checkSpecifiers paths root rest visited)
    | some path =>
      Dialog.note "compiler" ("resolved \x60" ++ s.value ++ "\x60 to " ++ path)
      if visited.contains path then checkSpecifiers paths root rest visited
      else
        let own := (← Dialog.askSource path).elim [] (·.diagnostics)
        return own ++ (← checkSpecifiers paths root rest (path :: visited))

/-- Every problem that blocks the emit. -/
def check (options : CompilerOptions) (root : SourceFile) : Dialog (List Diagnostic) := do
  let library ← checkLibrary options
  let modules ← checkSpecifiers options.paths root (specifiers root.parsed.program) []
  return tools.ownFaults root ++ library ++ modules

/-- Prepares, lowers, prints and writes a program without problems. -/
def emitChecked (options : CompilerOptions) (pipeline : Pipeline) (root : SourceFile) :
    Dialog EmitAnswer := do
  let draft := Draft.ofParsed root.text (dialectOf root.path) root.parsed
  match ← pipeline.runPreEmit options draft with
  | .error e => return .refused (.transform e)
  | .ok draft =>
    -- a transform that fails is reported before a target that is not supported
    if options.target = .es5 then return .refused (.target "Invalid target 'es5'.")
    match tools.lower options draft with
    | .error faults =>
      return .finished ⟨Diagnostic.ofFaults root.path root.text faults, true⟩
    | .ok lowered =>
      match ← pipeline.runPostEmit options (tools.print lowered) with
      | .error e => return .refused (.transform e)
      | .ok code =>
        Dialog.write outputPath code
        return .finished {}

/-- The service over some tools. -/
def service : Service := fun options pipeline => do
  match ← Dialog.askSource sourcePath with
  | none => return .refused (.sourceNotFound sourcePath)
  | some root =>
    let diagnostics ← tools.check options root
    if diagnostics.isEmpty then tools.emitChecked options pipeline root
    else
      Dialog.note "compiler" (toString diagnostics.length ++ " diagnostic(s), emit skipped")
      return .finished ⟨diagnostics, true⟩

end Toolchain

/-! ### Passes -/

/-- The result of a pass; with diagnostics nothing is emitted. -/
structure CompileResult where
  diagnostics : List Diagnostic := []
  emitted : Option String := none
deriving DecidableEq, Inhabited, Repr

/-- The diagnostics, one on a line. -/
def CompileResult.messages (r : CompileResult) : String :=
  "\n".intercalate (r.diagnostics.map Diagnostic.text)

/-- How a pass ends. -/
inductive PassEnd where
  | compiled (result : CompileResult)
  | refused (error : CompileError)
  | crashed (message : Option String)
deriving DecidableEq, Inhabited, Repr

/-- One pass of a service over the text being edited. -/
def compile (service : Service) (options : CompilerOptions) (pipeline : Pipeline)
    (host : VirtualHost) : PassEnd × VirtualHost :=
  -- what an earlier pass left behind is not the output of this one
  let (_, host) := host.takeOutput
  match (service options pipeline).run VirtualHost.host host with
  | (.crashed message, host) => (.crashed message, host)
  | (.refused error, host) => (.refused error, host)
  | (.finished report, host) =>
    if report.skipped || !report.diagnostics.isEmpty then
      (.compiled ⟨report.diagnostics, none⟩, host)
    else
      let (emitted, host) := host.takeOutput
      (.compiled ⟨report.diagnostics, emitted⟩, host)

end Playground.Compiler
