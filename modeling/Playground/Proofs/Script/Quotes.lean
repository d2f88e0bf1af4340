import Playground.Proofs.Script.Exports

/-!
# Where string literals start

The scanner makes a token a string only behind a quote, and the token starts at the quote.  So a
statement that names a module names it by a literal that starts at a quote.

* `Quoted` — a quote stands at a byte of a text;
* `Passes` — the action moves neither the mark nor the current token;
* `Known`, `Scans` — from what is known of the cursor, the action comes to a current token that is
  a string only if it starts at a quote;
* `Numeral`, `Fails` — a number is no string, and some actions always stop reading;
* `stringLiteral_literal` — a literal that is read from such a token starts at a quote;
* `Names` — a statement names a module, if any, by such a literal;
* `Sources` — the rules by which every construct that is read does so.
-/

namespace Playground.Script.Parse

open Playground.Text

variable {α β : Type}

/-- Whether a quote stands at a byte of a text. -/
def Quoted (text : String) (i : Nat) : Prop :=
  ∃ front quote behind, text.toList = front ++ quote :: behind ∧ i = width front ∧
    (quote = '\x22' ∨ quote = '\x27')

/-! ### Passing characters -/

/-- Whether an action leaves the mark and the current token. -/
class Passes (p : Parse α) : Prop where
  mark : ∀ {src s a s'}, p.run src s = .ok a s' → s'.mark = s.mark

namespace Passes

instance (priority := low) ofLooks {p : Parse α} [hp : Looks p] : Passes p where
  mark h := by rw [hp.cursor h]

instance bind {p : Parse α} {f : α → Parse β} [hp : Passes p] [hf : ∀ a, Passes (f a)] :
    Passes (p >>= f) where
  mark h := by
    obtain ⟨a, t, hpa, hfa⟩ := bind_ok h
    rw [(hf a).mark hfa, hp.mark hpa]

theorem either {c : Prop} [Decidable c] {p q : Parse α} (hp : Passes p) (hq : Passes q) :
    Passes (if c then p else q) := by
  split
  · exact hp
  · exact hq

instance ite {c : Prop} [Decidable c] {p q : Parse α} [hp : Passes p] [hq : Passes q] :
    Passes (if c then p else q) := either hp hq

instance pass : Passes pass where
  mark h := by
    cases h
    unfold Cursor.pass
    split <;> rfl

instance skip (n : Nat) : Passes (skip n) := by
  induction n with
  | zero => unfold Parse.skip; infer_instance
  | succ n ih => unfold Parse.skip; infer_instance

end Passes

instance (i : Nat) : Looks (charAt i) := by unfold charAt; infer_instance
instance : Looks peek := by unfold peek; infer_instance
instance (cause : Cause) (start : Nat) : Looks (noteScan cause start) := by
  unfold noteScan; infer_instance

instance : Passes hexDigit := by
  unfold hexDigit
  refine @Passes.bind _ _ _ _ inferInstance fun c => ?_
  repeat' first | infer_instance | split

instance (n value : Nat) : Passes (hexDigits n value) := by
  induction n generalizing value with
  | zero => unfold hexDigits; infer_instance
  | succ n ih =>
    unfold hexDigits
    refine @Passes.bind _ _ _ _ inferInstance fun v => ?_
    split
    · exact ih _
    · infer_instance

instance (n value : Nat) : Passes (bracedDigits n value) := by
  induction n generalizing value with
  | zero => unfold bracedDigits; infer_instance
  | succ n ih =>
    unfold bracedDigits
    refine @Passes.bind _ _ _ _ inferInstance fun v => ?_
    split
    · have := ih
      infer_instance
    · infer_instance

instance : Passes unicodeEscape := by
  unfold unicodeEscape
  refine @Passes.bind _ _ _ _ inferInstance fun c => ?_
  repeat' first | infer_instance | refine @Passes.bind _ _ _ _ inferInstance fun _ => ?_ | split

instance (inTemplate : Bool) (start : Nat) : Passes (escape inTemplate start) := by
  unfold escape
  repeat' first
    | refine Passes.either ?_ ?_
    | infer_instance
    | refine @Passes.bind _ _ _ _ inferInstance fun _ => ?_
    | split

instance (quote : Char) (start n : Nat) (acc : String) : Passes (stringBody quote start n acc) := by
  induction n generalizing acc with
  | zero => unfold stringBody; infer_instance
  | succ n ih =>
    unfold stringBody
    repeat' first
      | exact ih _ | infer_instance | refine @Passes.bind _ _ _ _ inferInstance fun _ => ?_ | split

/-! ### Scanning -/

/-- What is known of the cursor while a token is scanned. -/
inductive Known where
  | nothing
  /-- the token starts at this character -/
  | mark (c : Char)
  /-- the current token, if it is a string, starts at a quote -/
  | token

/-- Whether what is known holds of a cursor in a text. -/
def Known.Holds (text : String) (c : Cursor) : Known → Prop
  | .nothing => True
  | .mark d => ∃ front behind, text.toList = front ++ d :: behind ∧ c.mark = width front
  | .token => c.token.kind = .string → Quoted text c.token.start

/-- Whether an action, from what is known, comes to a current token that is a string only if it
starts at a quote. -/
class Scans (k : Known) (p : Parse α) : Prop where
  token : ∀ {src s a s'}, s.InText src.text → k.Holds src.text s.toCursor →
    p.run src s = .ok a s' → Known.token.Holds src.text s'.toCursor

namespace Scans

variable {k : Known} {p : Parse α} {f : α → Parse β}

/-- What scans the token in the end scans it as a whole. -/
theorem onward (hf : ∀ a, Scans .nothing (f a)) : Scans k (p >>= f) where
  token hs _ h := by
    obtain ⟨a, t, hpa, hfa⟩ := bind_ok h
    exact (hf a).token (p.forward hpa hs).1 trivial hfa

instance (priority := low) rest [hf : ∀ a, Scans .nothing (f a)] : Scans k (p >>= f) := onward hf

/-- What needs to know nothing may know anything. -/
theorem known (hp : Scans .nothing p) : Scans k p where
  token hs _ h := hp.token hs trivial h

/-- Passing characters leaves the start of the token. -/
theorem passing {d : Char} [hp : Passes p] (hf : ∀ a, Scans (.mark d) (f a)) :
    Scans (.mark d) (p >>= f) where
  token hs hk h := by
    obtain ⟨a, t, hpa, hfa⟩ := bind_ok h
    refine (hf a).token (p.forward hpa hs).1 ?_ hfa
    unfold Known.Holds
    rw [hp.mark hpa]
    exact hk

/-- What was scanned may be looked at. -/
theorem after [hp : Scans k p] (hf : ∀ a, Scans .token (f a)) : Scans k (p >>= f) where
  token hs hk h := by
    obtain ⟨a, t, hpa, hfa⟩ := bind_ok h
    exact (hf a).token (p.forward hpa hs).1 (hp.token hs hk hpa) hfa

instance look [hp : Looks p] : Scans .token p where
  token _ hk h := by
    rw [hp.cursor h]
    exact hk

instance looking [hp : Looks p] [hf : ∀ a, Scans .token (f a)] : Scans .token (p >>= f) := after hf

instance scanned [hp : Scans .nothing p] [hf : ∀ a, Scans .token (f a)] : Scans k (p >>= f) :=
  @after _ _ _ _ _ (known hp) hf

theorem either {c : Prop} [Decidable c] {p q : Parse α} (hp : c → Scans k p) (hq : Scans k q) :
    Scans k (if c then p else q) := by
  split
  · next hc => exact hp hc
  · exact hq

instance ite {c : Prop} [Decidable c] {p q : Parse α} [hp : Scans k p] [hq : Scans k q] :
    Scans k (if c then p else q) := either (fun _ => hp) hq

/-- A token that is no string. -/
theorem plain {kind : TokenKind} (hkind : kind ≠ .string) (name : String) (onNewLine escaped : Bool)
    (value : String) (cooked : Option String) :
    Scans k (setToken kind name onNewLine escaped value cooked) where
  token _ _ h := by
    cases h
    exact fun hstring => absurd hstring hkind

/-- A string that starts at a quote. -/
theorem quoted {d : Char} (hd : d = '\x22' ∨ d = '\x27') (onNewLine : Bool) (value : String) :
    Scans (.mark d) (setToken .string "string" onNewLine false value none) where
  token _ hk h := by
    cases h
    obtain ⟨front, behind, htext, hmark⟩ := hk
    exact fun _ => ⟨front, d, behind, htext, hmark, hd⟩

end Scans

/-- Whether what is read as a number is classed as no string. -/
class Numeral (p : Parse (TokenKind × String)) : Prop where
  kind : ∀ {src s a s'}, p.run src s = .ok a s' → a.1 ≠ .string

namespace Numeral

theorem onward {p : Parse α} {f : α → Parse (TokenKind × String)} (hf : ∀ a, Numeral (f a)) :
    Numeral (p >>= f) where
  kind h := by
    obtain ⟨a, t, -, hfa⟩ := bind_ok h
    exact (hf a).kind hfa

theorem pure {kind : TokenKind} (hkind : kind ≠ .string) (text : String) :
    Numeral (Pure.pure (kind, text)) where
  kind h := by cases h; exact hkind

end Numeral

theorem numberEnd_numeral {kind : TokenKind} (hkind : kind ≠ .string) (text : String) :
    Numeral (numberEnd kind text) := by
  unfold numberEnd
  repeat' first
    | exact Numeral.pure (by first | exact hkind | nofun) _
    | refine Numeral.onward fun _ => ?_
    | split

instance : Numeral exponentPart := by
  unfold exponentPart
  repeat' first
    | exact numberEnd_numeral (by nofun) _ | refine Numeral.onward fun _ => ?_ | split

instance : Numeral fractionPart := by
  unfold fractionPart
  repeat' first
    | exact numberEnd_numeral (by nofun) _
    | infer_instance
    | refine Numeral.onward fun _ => ?_
    | split

instance (test : Char → Bool) (text : String) : Numeral (radixPart test text) := by
  unfold radixPart
  repeat' first
    | exact numberEnd_numeral (by nofun) _ | refine Numeral.onward fun _ => ?_ | split

instance : Numeral leadingZeroPart := by
  unfold leadingZeroPart
  repeat' first
    | exact numberEnd_numeral (by nofun) _
    | infer_instance
    | refine Numeral.onward fun _ => ?_
    | split

instance (first : Char) : Numeral (number first) := by
  unfold number
  repeat' first
    | exact numberEnd_numeral (by nofun) _
    | exact Numeral.pure (by nofun) _
    | infer_instance
    | refine Numeral.onward fun _ => ?_
    | split

/-- A number is a token that is no string. -/
theorem Scans.numeral {k : Known} {p : Parse (TokenKind × String)}
    {f : TokenKind × String → Parse β} [hp : Numeral p]
    (hf : ∀ kind text, kind ≠ .string → Scans .nothing (f (kind, text))) : Scans k (p >>= f) where
  token hs _ h := by
    obtain ⟨⟨kind, text⟩, t, hpa, hfa⟩ := bind_ok h
    exact (hf kind text (hp.kind hpa)).token (p.forward hpa hs).1 trivial hfa

/-- A character that is seen stands in the text where the cursor is. -/
theorem peek_some {src : Source} {s s' : ParseState} {c : Char} (hs : Boundary src.text s.pos)
    (h : peek.run src s = .ok (some c) s') :
    ∃ front behind, src.text.toList = front ++ c :: behind ∧ s.pos = width front := by
  obtain ⟨front, behind, htext, hpos⟩ := hs
  change EStateM.Result.ok (if s.pos < src.text.utf8ByteSize then _ else none) s = _ at h
  obtain ⟨hchar, -⟩ := EStateM.Result.ok.inj h
  split at hchar
  · next hlt =>
    cases behind with
    | nil =>
      rw [← width_toList, htext, List.append_nil, hpos] at hlt
      exact absurd hlt (Nat.lt_irrefl _)
    | cons d behind =>
      have hget : String.Pos.Raw.get src.text ⟨s.pos⟩ = d := by
        have hbehind := get_behind front behind d 0
        rwa [← htext, Nat.zero_add, ← hpos] at hbehind
      rw [hget] at hchar
      cases hchar
      exact ⟨front, behind, htext, hpos⟩
  · cases hchar

/-- Where a token begins, the character is known once it was looked at. -/
theorem Scans.beginning {f : Nat → Option Char → Parse β} (hnone : ∀ i, Scans .nothing (f i none))
    (hsome : ∀ i c, Scans (.mark c) (f i (some c))) :
    Scans .nothing (begin >>= fun i => peek >>= f i) where
  token {src s _ _} hs _ h := by
    obtain ⟨i, t, hbegin, h⟩ := bind_ok h
    obtain ⟨c?, u, hpeek, h⟩ := bind_ok h
    have ht := (begin.forward hbegin hs).1
    have hu := (peek.forward hpeek ht).1
    cases c? with
    | none => exact (hnone i).token hu trivial h
    | some c =>
      refine (hsome i c).token hu ?_ h
      obtain ⟨front, behind, htext, hpos⟩ := peek_some ht.pos hpeek
      refine ⟨front, behind, htext, ?_⟩
      rw [Looks.cursor hpeek]
      cases hbegin
      exact hpos

instance (n : Nat) (onNewLine : Bool) : Scans .nothing (scanFrom n onNewLine) := by
  induction n generalizing onNewLine with
  | zero =>
    unfold scanFrom
    exact .onward fun _ => .plain (by nofun) ..
  | succ n ih =>
    unfold scanFrom
    refine .beginning (fun i => .plain (by nofun) ..) fun i c => ?_
    -- the start is kept up to the quote, and elsewhere the token is scanned on or is no string
    repeat' first
      | refine .either (fun hc => ?_) ?_
      | with_reducible refine .plain ?_ ..; decide
      | with_reducible exact .known (ih _)
      | with_reducible refine .quoted ?_ ..; simpa using hc
      | exact .numeral fun _ _ hkind => .onward fun _ => .onward fun _ => .plain hkind ..
      | refine .passing fun _ => ?_
      | refine .onward fun _ => ?_
      | split

instance (start : Nat) (leadingOnly : Bool) : Looks (settleComments start leadingOnly) := by
  unfold settleComments; infer_instance

instance : Scans .nothing scan := by
  unfold scan
  exact .onward fun _ => .onward fun _ => .onward fun _ => .after fun _ => inferInstance

instance : Scans .nothing bump := by unfold bump; infer_instance
instance : Scans .nothing bumpWord := by unfold bumpWord; infer_instance
instance (text : String) : Scans .nothing (expect text) := by unfold expect; infer_instance

/-! ### Literals -/

/-- Whether a node is a string literal that starts at a quote. -/
def Literal (text : String) (n : Node) : Prop :=
  ∃ value raw, n.shape = .stringLit value raw ∧ Quoted text n.span.start

/-- Whether an action always stops reading. -/
class Fails (p : Parse α) : Prop where
  fails : ∀ {src s a s'}, p.run src s ≠ .ok a s'

namespace Fails

theorem onward {p : Parse α} {f : α → Parse β} (hf : ∀ a, Fails (f a)) : Fails (p >>= f) where
  fails h := by
    obtain ⟨a, t, -, hfa⟩ := bind_ok h
    exact (hf a).fails hfa

instance rest {p : Parse α} {f : α → Parse β} [hf : ∀ a, Fails (f a)] : Fails (p >>= f) := onward hf

instance ite {c : Prop} [Decidable c] {p q : Parse α} [hp : Fails p] [hq : Fails q] :
    Fails (if c then p else q) := by
  split
  · exact hp
  · exact hq

instance stop (fault : Fault) : Fails (stop fault : Parse α) where
  fails h := by cases h

instance fail (cause : Cause) (start : Nat) : Fails (fail cause start : Parse α) :=
  inferInstanceAs (Fails (Parse.stop _))

instance unexpected : Fails (unexpected : Parse α) := by
  unfold Parse.unexpected
  refine onward fun s => ?_
  dsimp only
  split
  · split <;> infer_instance
  · infer_instance

end Fails

/-- A string token is read as a literal that starts where the token does. -/
theorem stringLiteral_literal {src : Source} {s s' : ParseState} {n : Node}
    (hs : Known.token.Holds src.text s.toCursor) (h : stringLiteral.run src s = .ok n s') :
    Literal src.text n := by
  unfold stringLiteral at h
  obtain ⟨t, _, ht, h⟩ := bind_ok h
  cases ht
  dsimp only at h
  split at h
  · obtain ⟨_, _, hunexpected, -⟩ := bind_ok h
    exact absurd hunexpected Fails.fails
  · next hkind =>
    obtain ⟨raw, _, hraw, h⟩ := bind_ok h
    obtain ⟨_, _, -, h⟩ := bind_ok h
    cases h
    exact ⟨_, _, rfl, hs (by simpa using hkind)⟩

/-! ### Statements that name a module -/

/-- Whether a statement names a module, if it does so, by a string literal that starts at a
quote. -/
def Names (text : String) (n : Node) : Prop := ∀ source ∈ source? n.shape, Literal text source

/-- Whether the construct that is read names a module by the given node. -/
class Naming (source : Node) (p : Parse Node) : Prop where
  source : ∀ {src s n s'}, p.run src s = .ok n s' → source? n.shape = some source

namespace Naming

variable {source : Node}

theorem onward {p : Parse α} {f : α → Parse Node} (hf : ∀ a, Naming source (f a)) :
    Naming source (p >>= f) where
  source h := by
    obtain ⟨a, t, -, hfa⟩ := bind_ok h
    exact (hf a).source hfa

theorem node {start : Nat} {shape : Shape Node} (hshape : source? shape = some source) :
    Naming source (node start shape) where
  source h := by cases h; exact hshape

end Naming

/-- Whether a construct, read from what is known, names a module by a literal. -/
class Sources (k : Known) (p : Parse Node) : Prop where
  names : ∀ {src s n s'}, s.InText src.text → k.Holds src.text s.toCursor →
    p.run src s = .ok n s' → Names src.text n

namespace Sources

variable {k : Known} {p : Parse α} {f : α → Parse Node}

/-- What comes first may be anything. -/
theorem onward (hf : ∀ a, Sources .nothing (f a)) : Sources k (p >>= f) where
  names hs _ h := by
    obtain ⟨a, t, hpa, hfa⟩ := bind_ok h
    exact (hf a).names (p.forward hpa hs).1 trivial hfa

instance (priority := low) rest [hf : ∀ a, Sources .nothing (f a)] : Sources k (p >>= f) :=
  onward hf

/-- What is scanned or looked at first leaves a token to go on with. -/
theorem after [hp : Scans k p] (hf : ∀ a, Sources .token (f a)) : Sources k (p >>= f) where
  names hs hk h := by
    obtain ⟨a, t, hpa, hfa⟩ := bind_ok h
    exact (hf a).names (p.forward hpa hs).1 (hp.token hs hk hpa) hfa

instance ite {c : Prop} [Decidable c] {p q : Parse Node} [Sources k p] [Sources k q] :
    Sources k (if c then p else q) := by
  split <;> infer_instance

instance plain {p : Parse Node} [hp : Plain p] : Sources k p where
  names _ _ h source hsource := by rw [(hp.shape h).source] at hsource; cases hsource

/-- A node that names no module. -/
theorem bare {start : Nat} {shape : Shape Node} (hshape : source? shape = none) :
    Sources k (node start shape) where
  names _ _ h source hsource := by
    cases h
    cases hshape.symm.trans hsource

/-- Behind `from` stands a literal. -/
theorem clause {f : Node × Option Node → Parse Node}
    (hf : ∀ source attributes, Naming source (f (source, attributes))) :
    Sources k (fromClause >>= f) where
  names hs hk h := by
    obtain ⟨⟨source, attributes⟩, t, hclause, hfa⟩ := bind_ok h
    unfold fromClause at hclause
    obtain ⟨_, u, hfrom, hclause⟩ := bind_ok hclause
    obtain ⟨x, v, hsource, hclause⟩ := bind_ok hclause
    obtain ⟨y, w, -, hclause⟩ := bind_ok hclause
    cases hclause
    have hu := Scans.token (k := .nothing) hs trivial hfrom
    intro y hy
    cases ((hf source attributes).source hfa).symm.trans hy
    exact stringLiteral_literal hu hsource

/-- A literal behind which nothing else is named. -/
theorem literal {f : Node → Parse Node} (hf : ∀ source, Naming source (f source)) :
    Sources .token (stringLiteral >>= f) where
  names _ hk h := by
    obtain ⟨source, t, hsource, hfa⟩ := bind_ok h
    intro y hy
    cases ((hf source).source hfa).symm.trans hy
    exact stringLiteral_literal hk hsource

end Sources

instance (word : String) : Looks (importWord? word) := by unfold importWord?; infer_instance

instance : Scans .token importTypeWord := by
  unfold importTypeWord
  infer_instance

instance : Scans .token importPhase := by
  unfold importPhase
  infer_instance

instance (start : Nat) : Sources .token (importRest start) := by
  unfold importRest
  repeat' first
    | exact .literal fun _ => .onward fun _ => .onward fun _ => .node rfl
    | exact .clause fun _ _ => .onward fun _ => .node rfl
    | infer_instance
    | refine .after fun _ => ?_
    | refine .onward fun _ => ?_
    | split

instance : Sources .nothing importDeclaration := by
  unfold importDeclaration
  exact .onward fun _ => .after fun _ => inferInstance

instance (start : Nat) (typeOnly : Bool) : Sources .nothing (exportList start typeOnly) := by
  unfold exportList
  refine .onward fun items => .onward fun isFrom => ?_
  split
  · exact .clause fun _ _ => .onward fun _ => .node rfl
  · exact .onward fun _ => .onward fun _ => .bare rfl

instance (start : Nat) (typeOnly : Bool) : Sources .nothing (exportAll start typeOnly) := by
  unfold exportAll
  repeat' first
    | exact .clause fun _ _ => .onward fun _ => .node rfl
    | refine .onward fun _ => ?_
    | split

variable (g : Grammar)

instance (start : Nat) (decorators : List Node) :
    Sources .nothing (exportDefault g start decorators) := by
  unfold exportDefault
  repeat' first | exact .bare rfl | refine .onward fun _ => ?_

instance (start : Nat) (decorators : List Node) :
    Sources .nothing (exportedDeclaration g start decorators) := by
  unfold exportedDeclaration
  repeat' first | exact .bare rfl | refine .onward fun _ => ?_

instance (start : Nat) : Sources .nothing (exportedImport start) := by
  unfold exportedImport
  repeat' first | exact .bare rfl | refine .onward fun _ => ?_

set_option synthInstance.maxSize 2000

instance (start : Nat) (decorators : List Node) :
    Sources .nothing (exportDeclaration g start decorators) := by
  unfold exportDeclaration; infer_instance

instance : Sources .nothing (decoratedStatement g) := by
  unfold decoratedStatement; infer_instance

instance (place : Place) : Sources .nothing (statement g place) := by
  unfold statement; infer_instance

instance (n : Nat) (place : Place) : Sources .nothing ((Grammar.level n).statement place) := by
  cases n with
  | zero => exact ⟨fun _ _ h => by cases h⟩
  | succ n =>
    have h : Sources .nothing (statement (Grammar.level n) place) := inferInstance
    exact ⟨h.names⟩

end Playground.Script.Parse
