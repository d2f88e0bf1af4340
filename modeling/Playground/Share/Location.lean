import Playground.Link.Url
import Playground.Log
import Playground.Share.Codec
import Playground.Text.Chars

/-!
# Fragments in locations and links

The location of a session shows a fragment, and tells when it changes.  `FragmentSync` remembers
the fragment last written or accepted, so that the echo of a write is not taken for navigation.

A permalink is a link whose fragment is that of a shared state.  `fragmentOf` finds the fragment
in whatever form somebody hands it over: as a link, behind a `#`, or bare.
-/

namespace Playground.Share

open Playground.Link Playground.Text

/-- A text without a leading `#`. -/
def withoutHash (fragment : String) : String :=
  match fragment.toList with
  | '#' :: rest => String.ofList rest
  | _ => fragment

/-- The fragment last written or accepted. -/
structure FragmentSync where
  current : Option String := none
deriving DecidableEq, Inhabited, Repr

/-- What a change of the location turns out to be. -/
inductive Arrival where
  /-- the fragment is the current one -/
  | echo
  | rejected (error : ShareError)
  | accepted (state : ShareState)

namespace Arrival

/-- The state that arrived, if one did. -/
def state? : Arrival → Option ShareState
  | accepted s => some s
  | _ => none

/-- What is noted about an arrival. -/
def remarks : Arrival → List Remark
  | echo => [.detail "share" "ignoring echo of own fragment"]
  | rejected e => [.detail "share" ("fragment rejected: " ++ e.message)]
  | accepted _ => []

end Arrival

namespace FragmentSync

/-- The fragment of a state, which becomes the current one. -/
def write (_ : FragmentSync) (s : ShareState) : String × FragmentSync :=
  let fragment := encode s
  (fragment, ⟨some fragment⟩)

/-- What a change of the location is, and the fragment that is current after it. -/
def arrive (sync : FragmentSync) (fragment : String) : Arrival × FragmentSync :=
  let fragment := withoutHash fragment
  if sync.current = some fragment then (.echo, sync)
  else
    match tryDecode fragment with
    -- a fragment that was refused may be refused again: it does not become the current one
    | .error e => (.rejected e, sync)
    | .ok s => (.accepted s, ⟨some fragment⟩)

end FragmentSync

/-! ### Permalinks -/

/-- A link with a fragment attached. -/
def permalink (base : Url) (fragment : String) : Url := base.withFragment fragment

/-- The fragment of a link, of a text behind `#`, or the text itself. -/
def fragmentOf (input : String) : Option String :=
  let input := String.ofList (trimBlanks input.toList)
  match Url.parse input with
  -- a text that is a link is never taken for a bare fragment
  | .ok url => url.fragment.filter (· ≠ "")
  | .error _ =>
    let fragment := withoutHash input
    if fragment.isEmpty then none else some fragment

end Playground.Share
