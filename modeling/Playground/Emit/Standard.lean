import Playground.Compiler.Service
import Playground.Emit.ModuleSyntax
import Playground.Emit.Markup
import Playground.Emit.Erase
import Playground.Emit.Lowering.Walk
import Playground.Emit.Minify.Script
import Playground.Script.Early.Check

/-!
# The standard tools

What the service is run with: the early errors of the language, the erasing of types with the
lowering behind it, the printer, and the transforms that the options call for.
-/

namespace Playground.Emit

open Playground.Compiler Playground.Script

/-- A program that lost all its module syntax with its types still says that it is a module. -/
def keepModule (e : Erased) (imports : Bool) (d : Draft) : Draft :=
  if e.lostModule && !imports then
    d.withBody (d.body ++ [.made (.exportNamed false none [] none none)])
  else d

/-- The tools for the language: lowering sees the program without its types, and a fault of
either blocks the emit. -/
def standardTools : Toolchain where
  earlyFaults _ parsed := Early.faultsOf parsed
  lower options d :=
    let e := eraseTypes d.program
    let l := lowerProgram options.target.year d.isModule e.program
    if e.faults.isEmpty && l.faults.isEmpty then
      .ok (keepModule e l.imports { d with program := l.program })
    else .error (e.faults ++ l.faults)
  print d := d.text

/-- The transforms that some options call for: markup is compiled unless it is to stay, module
syntax goes where there are no modules, and the script is made short last. -/
def standardPipeline (options : CompilerOptions) : Pipeline :=
  { preEmit := if options.jsx = .preserve then [] else [componentSyntax]
    postEmit := (if options.module = .none then [stripModuleSyntax] else []) ++
      (if options.minify then [minify] else []) }

end Playground.Emit
