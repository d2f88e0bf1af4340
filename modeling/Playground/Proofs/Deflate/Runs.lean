import Playground.Proofs.Deflate.Pieces

/-!
# Runs of code lengths read back

Code lengths are sent as symbols, some of which stand for a run.  `Spells acc symbols all` says that
symbols, read behind the lengths `acc`, make them `all`.  `lengthSymbols` spells the lengths it is
given: the runs that it puts off, `Pending`, are either zeros, or repeat the length that was sent
last.  A reader takes the symbols for the lengths that they spell.
-/

namespace Playground.Deflate

/-! ### Spelling lengths -/

/-- Behind some lengths, symbols lead to further ones. -/
inductive Spells : List Nat → List LengthSymbol → List Nat → Prop where
  | nil (acc : List Nat) : Spells acc [] acc
  | length {acc : List Nat} {l : Nat} {symbols : List LengthSymbol} {all : List Nat} (hl : l < 16)
      (h : Spells (acc ++ [l]) symbols all) : Spells acc (⟨l, 0, 0⟩ :: symbols) all
  | again {acc : List Nat} {l n : Nat} {symbols : List LengthSymbol} {all : List Nat}
      (hlast : acc.getLast? = some l) (hn : n < 4)
      (h : Spells (acc ++ List.replicate (3 + n) l) symbols all) :
      Spells acc (⟨16, 2, n⟩ :: symbols) all
  | zeros {acc : List Nat} {n : Nat} {symbols : List LengthSymbol} {all : List Nat} (hn : n < 8)
      (h : Spells (acc ++ List.replicate (3 + n) 0) symbols all) :
      Spells acc (⟨17, 3, n⟩ :: symbols) all
  | manyZeros {acc : List Nat} {n : Nat} {symbols : List LengthSymbol} {all : List Nat}
      (hn : n < 128) (h : Spells (acc ++ List.replicate (11 + n) 0) symbols all) :
      Spells acc (⟨18, 7, n⟩ :: symbols) all

namespace Spells

variable {acc all : List Nat} {symbols : List LengthSymbol}

theorem append {more : List Nat} {symbols' : List LengthSymbol} (h : Spells acc symbols all)
    (k : Spells all symbols' more) : Spells acc (symbols ++ symbols') more := by
  induction h with
  | nil acc => exact k
  | length hl _ ih => exact .length hl (ih k)
  | again hlast hn _ ih => exact .again hlast hn (ih k)
  | zeros hn _ ih => exact .zeros hn (ih k)
  | manyZeros hn _ ih => exact .manyZeros hn (ih k)

/-- Each symbol adds a length at least. -/
theorem length_le (h : Spells acc symbols all) : acc.length + symbols.length ≤ all.length := by
  induction h with
  | nil acc => exact Nat.le_refl _
  | length _ _ ih =>
    rw [List.length_append, List.length_singleton] at ih
    rw [List.length_cons]
    omega
  | again _ _ _ ih =>
    rw [List.length_append, List.length_replicate] at ih
    rw [List.length_cons]
    omega
  | zeros _ _ ih =>
    rw [List.length_append, List.length_replicate] at ih
    rw [List.length_cons]
    omega
  | manyZeros _ _ ih =>
    rw [List.length_append, List.length_replicate] at ih
    rw [List.length_cons]
    omega

/-- A length several times, symbol by symbol. -/
theorem each {l : Nat} (hl : l < 16) (acc : List Nat) (n : Nat) :
    Spells acc (List.replicate n ⟨l, 0, 0⟩) (acc ++ List.replicate n l) := by
  induction n generalizing acc with
  | zero =>
    rw [List.replicate_zero, List.replicate_zero, List.append_nil]
    exact .nil acc
  | succ n ih =>
    rw [List.replicate_succ, List.replicate_succ, List.append_cons]
    exact .length hl (ih _)

/-- So many zeros. -/
theorem zeroRun (acc : List Nat) {n : Nat} (hn : n ≤ 138) :
    Spells acc (zeroRun n) (acc ++ List.replicate n 0) := by
  unfold Deflate.zeroRun
  split
  · exact each (by decide) acc n
  · split
    · have hrun : 3 + (n - 3) = n := by omega
      rw [← hrun, Nat.add_sub_cancel_left]
      exact .zeros (by omega) (.nil _)
    · have hrun : 11 + (n - 11) = n := by omega
      rw [← hrun, Nat.add_sub_cancel_left]
      exact .manyZeros (by omega) (.nil _)

/-- The length that was sent last, so many times again. -/
theorem repeatRun {l n : Nat} (hl : l < 16) (hn : n ≤ 6) (hlast : acc.getLast? = some l) :
    Spells acc (repeatRun l n) (acc ++ List.replicate n l) := by
  unfold Deflate.repeatRun
  split
  · exact each hl acc n
  · have hrun : 3 + (n - 3) = n := by omega
    rw [← hrun, Nat.add_sub_cancel_left]
    exact .again hlast (by omega) (.nil _)

end Spells

/-! ### Runs that are put off -/

/-- The lengths that are put off behind some lengths: zeros, or the length that was sent last
again. -/
inductive Pending (acc : List Nat) : Option Nat → Nat → Nat → List Nat → Prop where
  | zeros {before : Option Nat} {n : Nat} (hbefore : before.getD 0 = 0) (hn : n < 138) :
      Pending acc before 0 n (List.replicate n 0)
  | again {l n : Nat} (hne : l ≠ 0) (hl : l < 16) (hlast : acc.getLast? = some l) (hn : n < 6) :
      Pending acc (some l) n 0 (List.replicate n l)

theorem replicate_append_cons (n l : Nat) (ls : List Nat) :
    List.replicate n l ++ l :: ls = List.replicate (n + 1) l ++ ls := by
  rw [List.append_cons, ← List.replicate_succ']

theorem lengthSymbols_zero (ls : List Nat) (before : Option Nat) (repeats zeros : Nat) :
    lengthSymbols (0 :: ls) before repeats zeros = repeatRun (before.getD 0) repeats ++
      if zeros + 1 = 138 then zeroRun 138 ++ lengthSymbols ls (some 0) 0 0
      else lengthSymbols ls (some 0) 0 (zeros + 1) := rfl

theorem lengthSymbols_succ (l : Nat) (ls : List Nat) (before : Option Nat) (repeats zeros : Nat) :
    lengthSymbols ((l + 1) :: ls) before repeats zeros = zeroRun zeros ++
      if before = some (l + 1) then
        if repeats + 1 = 6 then repeatRun (l + 1) 6 ++ lengthSymbols ls (some (l + 1)) 0 0
        else lengthSymbols ls (some (l + 1)) (repeats + 1) 0
      else repeatRun (before.getD 0) repeats ++
        ⟨l + 1, 0, 0⟩ :: lengthSymbols ls (some (l + 1)) 0 0 := rfl

/-- Whatever is put off, it is spelt with the lengths that follow. -/
def SpellsOn (ls : List Nat) : Prop :=
  ∀ ⦃acc pending : List Nat⦄ ⦃before : Option Nat⦄ ⦃repeats zeros : Nat⦄,
    Pending acc before repeats zeros pending →
      Spells acc (lengthSymbols ls before repeats zeros) (acc ++ (pending ++ ls))

namespace SpellsOn

variable {ls : List Nat}

/-- What is still put off at the end is a run of its own. -/
theorem nil : SpellsOn [] := by
  intro acc pending before repeats zeros h
  rw [List.append_nil, lengthSymbols]
  cases h with
  | zeros hbefore hn =>
    rw [if_neg (by decide)]
    exact .zeroRun acc (Nat.le_of_lt hn)
  | again hne hl hlast hn =>
    by_cases hzero : repeats = 0
    · rw [if_neg (by omega), hzero]
      exact .zeroRun acc (by decide)
    · rw [if_pos hzero]
      exact .repeatRun hl (Nat.le_of_lt hn) hlast

/-- Nothing is put off behind zeros that were sent. -/
theorem behind_zeros (h : SpellsOn ls) (acc : List Nat) :
    Spells acc (lengthSymbols ls (some 0) 0 0) (acc ++ ls) := by
  have hpending : Pending acc (some 0) 0 0 (List.replicate 0 0) := .zeros rfl (by decide)
  exact h hpending

/-- Nothing is put off behind another length that was sent. -/
theorem behind_length (h : SpellsOn ls) {acc : List Nat} {l : Nat} (hne : l ≠ 0) (hl : l < 16)
    (hlast : acc.getLast? = some l) : Spells acc (lengthSymbols ls (some l) 0 0) (acc ++ ls) := by
  have hpending : Pending acc (some l) 0 0 (List.replicate 0 l) := .again hne hl hlast (by decide)
  exact h hpending

/-- A length other than zero is sent, and then what follows. -/
theorem send (h : SpellsOn ls) (acc : List Nat) {l : Nat} (hne : l ≠ 0) (hl : l < 16) :
    Spells acc (⟨l, 0, 0⟩ :: lengthSymbols ls (some l) 0 0) (acc ++ l :: ls) := by
  rw [List.append_cons]
  exact .length hl (h.behind_length hne hl List.getLast?_concat)

/-- A zero ends a run of another length, and joins one of zeros. -/
theorem zero (h : SpellsOn ls) : SpellsOn (0 :: ls) := by
  intro acc pending before repeats zeros hpending
  rw [lengthSymbols_zero]
  cases hpending with
  | zeros hbefore hn =>
    rw [hbefore, replicate_append_cons]
    by_cases hmost : zeros + 1 = 138
    · -- the run is as long as one symbol can tell
      rw [if_pos hmost, hmost, ← List.append_assoc acc]
      exact (Spells.zeroRun acc (Nat.le_refl _)).append (h.behind_zeros _)
    · rw [if_neg hmost]
      exact h (.zeros rfl (by omega))
  | @again l n hne hl hlast hn =>
    have hrun : Spells acc (repeatRun l repeats) (acc ++ List.replicate repeats l) :=
      .repeatRun hl (Nat.le_of_lt hn) hlast
    have hpending : Pending (acc ++ List.replicate repeats l) (some 0) 0 1
        (List.replicate 1 0) := .zeros rfl (by decide)
    rw [if_neg (by decide), ← List.append_assoc acc]
    exact hrun.append (h hpending)

/-- Another length ends a run of zeros, and joins one of the same length. -/
theorem succ (h : SpellsOn ls) {k : Nat} (hl : k + 1 < 16) : SpellsOn ((k + 1) :: ls) := by
  intro acc pending before repeats zeros hpending
  have hne := Nat.succ_ne_zero k
  rw [lengthSymbols_succ]
  cases hpending with
  | zeros hbefore hn =>
    have hnot : before ≠ some (k + 1) := fun heq => by
      rw [heq] at hbefore
      exact hne hbefore
    rw [if_neg hnot, hbefore, ← List.append_assoc acc]
    exact (Spells.zeroRun acc (Nat.le_of_lt hn)).append (h.send _ hne hl)
  | @again l n _ hl' hlast hn =>
    by_cases hsame : l = k + 1
    · rw [if_pos (congrArg some hsame), hsame, replicate_append_cons]
      rw [hsame] at hlast
      by_cases hmost : repeats + 1 = 6
      · -- the run is as long as one symbol can tell
        have hlast' : (acc ++ List.replicate 6 (k + 1)).getLast? = some (k + 1) := by
          rw [List.getLast?_append, List.getLast?_replicate]
          rfl
        rw [if_pos hmost, hmost, ← List.append_assoc acc]
        exact (Spells.repeatRun hl (Nat.le_refl _) hlast).append (h.behind_length hne hl hlast')
      · rw [if_neg hmost]
        exact h (.again hne hl hlast (by omega))
    · have hrun : Spells acc (repeatRun l repeats) (acc ++ List.replicate repeats l) :=
        .repeatRun hl' (Nat.le_of_lt hn) hlast
      rw [if_neg (fun heq => hsame (Option.some.inj heq)), ← List.append_assoc acc]
      exact hrun.append (h.send _ hne hl)

end SpellsOn

/-- What is put off and the lengths that follow are spelt. -/
theorem lengthSymbols_spells {ls : List Nat} (hls : ∀ l ∈ ls, l < 16) : SpellsOn ls := by
  induction ls with
  | nil => exact .nil
  | cons l ls ih =>
    have hrest := ih fun m hm => hls m (List.mem_cons_of_mem l hm)
    cases l with
    | zero => exact hrest.zero
    | succ k => exact hrest.succ (hls (k + 1) List.mem_cons_self)

/-! ### Symbols written and read -/

namespace Spells

variable {acc all : List Nat} {symbols : List LengthSymbol}

/-- The extra bits hold their value. -/
theorem fits (h : Spells acc symbols all) :
    ∀ x ∈ symbols, x.value < 2 ^ x.width ∧ x.symbol < 19 := by
  induction h with
  | nil acc => exact List.forall_mem_nil _
  | length hl _ ih =>
    have hfits := Nat.lt_of_lt_of_le hl (by decide : 16 ≤ 19)
    exact List.forall_mem_cons.2 ⟨⟨Nat.one_pos, hfits⟩, ih⟩
  | again _ hn _ ih => exact List.forall_mem_cons.2 ⟨⟨hn, (by decide : 16 < 19)⟩, ih⟩
  | zeros hn _ ih => exact List.forall_mem_cons.2 ⟨⟨hn, (by decide : 17 < 19)⟩, ih⟩
  | manyZeros hn _ ih => exact List.forall_mem_cons.2 ⟨⟨hn, (by decide : 18 < 19)⟩, ih⟩

/-- A single symbol spells a single length. -/
theorem constant {s : Nat} (h : Spells acc symbols all) (hs : ∀ x ∈ symbols, x.symbol = s)
    (hacc : ∀ l ∈ acc, l = if s < 16 then s else 0) : ∀ l ∈ all, l = if s < 16 then s else 0 := by
  -- a run repeats what was there, or zero
  have hrun {acc : List Nat} {n l v : Nat} (hacc : ∀ l ∈ acc, l = v) (hl : l = v) :
      ∀ m ∈ acc ++ List.replicate n l, m = v := by
    intro m hm
    rcases List.mem_append.1 hm with hm | hm
    · exact hacc m hm
    · exact (List.mem_replicate.1 hm).2.trans hl
  induction h with
  | nil acc => exact hacc
  | length hl _ ih =>
    obtain rfl := hs _ List.mem_cons_self
    exact ih (fun x hx => hs x (List.mem_cons_of_mem _ hx)) (hrun (n := 1) hacc (if_pos hl).symm)
  | again hlast _ _ ih =>
    exact ih (fun x hx => hs x (List.mem_cons_of_mem _ hx))
      (hrun hacc (hacc _ (List.mem_of_getLast? hlast)))
  | zeros _ _ ih =>
    obtain rfl := hs _ List.mem_cons_self
    exact ih (fun x hx => hs x (List.mem_cons_of_mem _ hx)) (hrun hacc rfl)
  | manyZeros _ _ ih =>
    obtain rfl := hs _ List.mem_cons_self
    exact ih (fun x hx => hs x (List.mem_cons_of_mem _ hx)) (hrun hacc rfl)

end Spells

/-- The bits of a symbol for code lengths. -/
def LengthSymbol.bits (coding : Coding) (x : LengthSymbol) : List Nat :=
  coding.bits x.symbol ++ lowBits x.width x.value

/-- A run is appended to what was read before. -/
theorem toArray_append_replicate (acc : List Nat) (n l : Nat) :
    acc.toArray ++ Array.replicate n l = (acc ++ List.replicate n l).toArray := by
  rw [← List.toArray_replicate, List.append_toArray]

/-- How reading code lengths goes on behind a symbol. -/
def Inflater.behindSymbol (t : Table) (total fuel : Nat) (acc : Array Nat) (s : Nat) :
    Inflater (Array Nat) := do
  if s < 16 then Inflater.codeLengths t total fuel (acc.push s)
  else if s = 16 then
    match acc.back? with
    | none => throw .corrupt
    | some length =>
      let n := 3 + (← Inflater.bits 2)
      Inflater.codeLengths t total fuel (acc ++ Array.replicate n length)
  else
    let n ← if s = 17 then (3 + ·) <$> Inflater.bits 3 else (11 + ·) <$> Inflater.bits 7
    Inflater.codeLengths t total fuel (acc ++ Array.replicate n 0)

section Symbols

variable {lengths : Array Nat} {limit : Nat} (h : Readable lengths limit)
include h

/-- Symbols for code lengths are written one after the other. -/
theorem Bits.lengthSymbols_writes {w : Bits} (hw : w.Tidy) {symbols : List LengthSymbol}
    (hfits : ∀ x ∈ symbols, x.value < 2 ^ x.width) (hcoded : ∀ x ∈ symbols, HasCode lengths x.symbol) :
    w.Writes (symbols.flatMap (LengthSymbol.bits (.ofLengths lengths limit)))
      (symbols.foldl (fun w x => (w.symbol (.ofLengths lengths limit) x.symbol).put x.value x.width)
        w) :=
  Bits.foldl_writes (fun x hx _ hw =>
    have hsymbol := h.symbol_writes (hcoded x hx) hw
    hsymbol.trans (Bits.put_writes hsymbol.tidy (hfits x hx))) hw

/-- Each symbol for code lengths has a bit at least. -/
theorem length_lengthSymbols {symbols : List LengthSymbol}
    (hcoded : ∀ x ∈ symbols, HasCode lengths x.symbol) :
    symbols.length ≤
      (symbols.flatMap (LengthSymbol.bits (.ofLengths lengths limit))).length := by
  induction symbols with
  | nil => exact Nat.le_refl _
  | cons x symbols ih =>
    have hpos := h.length_bits_pos (hcoded x List.mem_cons_self)
    have hrest := ih fun y hy => hcoded y (List.mem_cons_of_mem x hy)
    rw [List.flatMap_cons, List.length_append, LengthSymbol.bits, List.length_append,
      List.length_cons]
    omega

/-- As long as lengths are missing, a symbol is read, and then what follows. -/
theorem Inflater.codeLengths_symbol {acc all : List Nat} {x : LengthSymbol}
    {symbols : List LengthSymbol} (hspells : Spells acc (x :: symbols) all)
    (hcoded : HasCode lengths x.symbol) {n : Nat} (hn : (x :: symbols).length < n)
    {before : List Nat} {out : ByteArray}
    (hnext : ∀ m, symbols.length < m → ∀ before,
      Reads (Inflater.behindSymbol (.ofLengths lengths.toList) all.length m acc.toArray x.symbol)
        before out (lowBits x.width x.value ++
          symbols.flatMap (LengthSymbol.bits (.ofLengths lengths limit))) all.toArray out) :
    Reads (Inflater.codeLengths (.ofLengths lengths.toList) all.length n acc.toArray) before out
      ((x :: symbols).flatMap (LengthSymbol.bits (.ofLengths lengths limit))) all.toArray out := by
  have hmore := hspells.length_le
  rw [List.length_cons] at hmore hn
  obtain ⟨n, rfl⟩ := Nat.exists_eq_succ_of_ne_zero (Nat.ne_zero_of_lt hn)
  rw [Inflater.codeLengths, List.size_toArray, if_neg (by omega), if_neg (by omega),
    List.flatMap_cons, LengthSymbol.bits, List.append_assoc]
  exact (h.symbol_reads hcoded).bind (hnext n (by omega) _)

/-- Symbols are read back as the code lengths that they spell. -/
theorem Inflater.codeLengths_reads {acc all : List Nat} {symbols : List LengthSymbol}
    (hspells : Spells acc symbols all) (hcoded : ∀ x ∈ symbols, HasCode lengths x.symbol) {n : Nat}
    (hn : symbols.length < n) {before : List Nat} {out : ByteArray} :
    Reads (Inflater.codeLengths (.ofLengths lengths.toList) all.length n acc.toArray) before out
      (symbols.flatMap (LengthSymbol.bits (.ofLengths lengths limit))) all.toArray out := by
  have hextra {width value : Nat} (hvalue : value < 2 ^ width) (before : List Nat) :
      Reads (Inflater.bits width) before out (lowBits width value) value out := reads_bits hvalue
  -- the symbols are followed as they spell; what was sent before is what was read before
  induction hspells generalizing n before with
  | nil acc =>
    obtain ⟨n, rfl⟩ := Nat.exists_eq_succ_of_ne_zero (Nat.ne_zero_of_lt hn)
    rw [Inflater.codeLengths, if_pos List.size_toArray]
    exact reads_pure
  | length hl hspells ih =>
    refine Inflater.codeLengths_symbol h (.length hl hspells) (hcoded _ List.mem_cons_self) hn
      fun m hm _ => ?_
    rw [Inflater.behindSymbol, if_pos hl, List.push_toArray]
    exact ih (fun y hy => hcoded y (List.mem_cons_of_mem _ hy)) hm
  | again hlast hk hspells ih =>
    refine Inflater.codeLengths_symbol h (.again hlast hk hspells) (hcoded _ List.mem_cons_self) hn
      fun m hm _ => ?_
    rw [Inflater.behindSymbol, if_neg (show ¬16 < 16 by decide), if_pos rfl, List.back?_toArray,
      hlast]
    refine (hextra hk _).bind ?_
    dsimp only
    rw [toArray_append_replicate]
    exact ih (fun y hy => hcoded y (List.mem_cons_of_mem _ hy)) hm
  | zeros hk hspells ih =>
    refine Inflater.codeLengths_symbol h (.zeros hk hspells) (hcoded _ List.mem_cons_self) hn
      fun m hm _ => ?_
    rw [Inflater.behindSymbol, if_neg (show ¬17 < 16 by decide), if_neg (show 17 ≠ 16 by decide),
      if_pos rfl]
    refine ((hextra hk _).map _).bind ?_
    dsimp only
    rw [toArray_append_replicate]
    exact ih (fun y hy => hcoded y (List.mem_cons_of_mem _ hy)) hm
  | manyZeros hk hspells ih =>
    refine Inflater.codeLengths_symbol h (.manyZeros hk hspells) (hcoded _ List.mem_cons_self) hn
      fun m hm _ => ?_
    rw [Inflater.behindSymbol, if_neg (show ¬18 < 16 by decide), if_neg (show 18 ≠ 16 by decide),
      if_neg (show 18 ≠ 17 by decide)]
    refine ((hextra hk _).map _).bind ?_
    dsimp only
    rw [toArray_append_replicate]
    exact ih (fun y hy => hcoded y (List.mem_cons_of_mem _ hy)) hm

end Symbols

end Playground.Deflate
