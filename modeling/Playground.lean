import Playground.Main
import Playground.Session.Actor
import Playground.Proofs.Session.Beginning
import Playground.Proofs.Session.Convergence
import Playground.Proofs.Session.Debounce
import Playground.Proofs.Session.OnDisk
import Playground.Proofs.Session.Refusal
import Playground.Proofs.Session.Resilience
import Playground.Proofs.Session.Restore
import Playground.Proofs.Session.Navigation
import Playground.Proofs.Session.Loop
import Playground.Proofs.Session.WatchStatus
import Playground.Proofs.Config.Validation
import Playground.Proofs.Link.Characters
import Playground.Proofs.Link.Reread
import Playground.Proofs.Share.Canonical
import Playground.Proofs.Share.FragmentSync
import Playground.Proofs.Snapshot.Load
import Playground.Proofs.Share.Permalink
import Playground.Proofs.Emit.ModuleSyntax
import Playground.Proofs.Sandbox.Markers
import Playground.Proofs.Sandbox.ScriptEnd
import Playground.Proofs.Compiler.AllOrNothing
import Playground.Proofs.Compiler.Resolution
import Playground.Proofs.Compiler.Growth
import Playground.Proofs.Compiler.Queries
import Playground.Proofs.Compiler.Repeats
