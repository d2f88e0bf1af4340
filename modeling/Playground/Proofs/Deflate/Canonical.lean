import Playground.Proofs.Deflate.Bits

/-!
# Canonical codes read back

The codes of one length are consecutive numbers, and go on where twice the codes of the shorter
lengths have ended.  `share count j` is the number of codes of length `j` that the codes up to that
length take away; the first code of the next length is twice that.  A table whose shares fill the
code space reads back every symbol from its code.
-/

namespace Playground.Deflate

/-! ### The code space -/

/-- How many codes of length `j` the codes up to that length take away, where there are `count i`
codes of length `i + 1`. -/
def share (count : Nat → Nat) : Nat → Nat
  | 0 => 0
  | j + 1 => 2 * share count j + count j

/-- What is taken away stays taken away. -/
theorem share_mul_le (count : Nat → Nat) (j m : Nat) :
    share count j * 2 ^ m ≤ share count (j + m) := by
  induction m with
  | zero => exact Nat.le_of_eq (Nat.mul_one _)
  | succ m ih =>
    have hpow : share count j * 2 ^ (m + 1) = 2 * (share count j * 2 ^ m) := by
      rw [Nat.pow_succ]
      ac_rfl
    rw [hpow, ← Nat.add_assoc, share]
    omega

/-- Codes that fit into the longest length fit into every length. -/
theorem share_le {count : Nat → Nat} {limit j : Nat} (h : share count limit ≤ 2 ^ limit)
    (hj : j ≤ limit) : share count j ≤ 2 ^ j := by
  obtain ⟨m, rfl⟩ := Nat.exists_eq_add_of_le hj
  have hmul := Nat.le_trans (share_mul_le count j m) h
  rw [Nat.pow_add] at hmul
  exact Nat.le_of_mul_le_mul_right hmul (Nat.two_pow_pos m)

/-- How many symbols have a code of length `i + 1`. -/
def countOf (lengths : List Nat) (i : Nat) : Nat := lengths.count (i + 1)

/-- The codes of given lengths fill the code space exactly. -/
def Full (lengths : List Nat) : Prop := share (countOf lengths) 15 = 2 ^ 15

/-! ### Codes in the order in which their bits are sent -/

/-- The lowest bits of a number, the highest first. -/
def codeBits (n code : Nat) : List Nat := (lowBits n code).reverse

/-- The first bit is the highest one. -/
theorem codeBits_succ (n code : Nat) : codeBits (n + 1) code = code / 2 ^ n % 2 :: codeBits n code := by
  rw [codeBits, lowBits_add n 1, List.reverse_append]
  rfl

theorem reversed_lt (n code : Nat) : reversed n code < 2 ^ n := by
  induction n generalizing code with
  | zero => exact Nat.one_pos
  | succ n ih =>
    have hrest := ih (code / 2)
    have hbit : code % 2 * 2 ^ n ≤ 1 * 2 ^ n :=
      Nat.mul_le_mul_right _ (Nat.le_of_lt_succ (Nat.mod_lt _ (by decide)))
    rw [reversed, Nat.shiftLeft_eq, Nat.pow_succ]
    omega

/-- A code that is read backwards is sent from its highest bit on. -/
theorem lowBits_reversed (n code : Nat) : lowBits n (reversed n code) = codeBits n code := by
  induction n generalizing code with
  | zero => rfl
  | succ n ih =>
    have hbits : lowBits (n + 1) code = code % 2 :: lowBits n (code / 2) := rfl
    rw [reversed, Nat.add_comm (_ <<< _), lowBits_shiftLeft (reversed_lt n _), ih, codeBits, codeBits,
      hbits, List.reverse_cons]
    simp only [lowBits, Nat.mod_mod]

/-! ### Reading a code -/

/-- How many codes there are of the lengths from `j` on, up to the one that is `d` longer. -/
def skipped (count : Nat → Nat) : Nat → Nat → Nat
  | _, 0 => 0
  | j, d + 1 => count j + skipped count (j + 1) d

namespace Inflater

variable {before : List Nat} {out : ByteArray}

/-- The code of the `k`th symbol of its length is followed down to its length, where `d` lengths are
still to come. -/
theorem symbolFrom_reads (count : Nat → Nat) (symbols : Array Nat) {k code : Nat}
    (d : Nat) {j n c index : Nat} (hn : d < n) (hk : k < count (j + d))
    (hcode : code = 2 * share count (j + d) + k) (hc : c + share count j = code / 2 ^ (d + 1)) :
    Reads (symbolFrom symbols ((List.range' j n).map count) c index) before out
      (codeBits (d + 1) code) (symbols.getD (index + skipped count j d + k) 0) out := by
  induction d generalizing j n c index before with
  | zero =>
    obtain ⟨n, rfl⟩ := Nat.exists_eq_succ_of_ne_zero (Nat.ne_zero_of_lt hn)
    rw [Nat.zero_add, Nat.pow_one] at hc
    rw [Nat.add_zero] at hcode hk
    have hvalue : c * 2 + code / 2 ^ 0 % 2 = k := by
      rw [Nat.pow_zero, Nat.div_one]
      omega
    rw [List.range'_succ, List.map_cons, symbolFrom, codeBits_succ]
    refine (reads_bit _).bind_last ?_
    rw [hvalue, if_pos hk]
    exact reads_pure
  | succ d ih =>
    obtain ⟨n, rfl⟩ := Nat.exists_eq_succ_of_ne_zero (Nat.ne_zero_of_lt hn)
    have hpow : code / 2 ^ (d + 1 + 1) = code / 2 ^ (d + 1) / 2 := by
      rw [Nat.div_div_eq_div_mul, ← Nat.pow_succ]
    -- the code lies behind all codes of the present length
    have hbehind : 2 * share count j + count j ≤ code / 2 ^ (d + 1) := by
      rw [Nat.le_div_iff_mul_le (Nat.two_pow_pos _)]
      have hmul := share_mul_le count (j + 1) d
      have hdouble : (2 * share count j + count j) * 2 ^ (d + 1) =
          2 * (share count (j + 1) * 2 ^ d) := by
        rw [share, Nat.pow_succ]
        ac_rfl
      have hplace : j + (d + 1) = j + 1 + d := by omega
      rw [hplace] at hcode
      omega
    have hvalue : c * 2 + code / 2 ^ (d + 1) % 2 + 2 * share count j = code / 2 ^ (d + 1) := by
      omega
    have hplace : j + (d + 1) = j + 1 + d := by omega
    rw [hplace] at hcode hk
    have hnext := @ih (before ++ [code / 2 ^ (d + 1) % 2]) (j + 1) n
      (c * 2 + code / 2 ^ (d + 1) % 2 - count j) (index + count j) (Nat.lt_of_succ_lt_succ hn) hk
      hcode (by rw [share]; omega)
    rw [List.range'_succ, List.map_cons, symbolFrom, codeBits_succ, skipped, ← Nat.add_assoc index]
    refine (reads_bit _).bind ?_
    rw [if_neg (by omega)]
    exact hnext

end Inflater

/-! ### Tables -/

/-- The symbols with a code of length `n`, in order, where the first symbol is `m`. -/
def symbolsFrom (m : Nat) (lengths : List Nat) (n : Nat) : List Nat :=
  ((lengths.zipIdx m).filter (·.1 = n)).map (·.2)

theorem symbolsFrom_cons_self (m n : Nat) (lengths : List Nat) :
    symbolsFrom m (n :: lengths) n = m :: symbolsFrom (m + 1) lengths n := by
  simp [symbolsFrom, List.zipIdx_cons]

theorem symbolsFrom_cons_of_ne {l n : Nat} (h : l ≠ n) (m : Nat) (lengths : List Nat) :
    symbolsFrom m (l :: lengths) n = symbolsFrom (m + 1) lengths n := by
  simp [symbolsFrom, List.zipIdx_cons, h]

/-- A symbol stands behind the smaller ones of its length. -/
theorem symbolsFrom_getElem? {lengths : List Nat} {s n : Nat} (h : lengths[s]? = some n) (m : Nat) :
    (symbolsFrom m lengths n)[(lengths.take s).count n]? = some (m + s) := by
  induction lengths generalizing s m with
  | nil => cases h
  | cons l lengths ih =>
    cases s with
    | zero =>
      obtain rfl : l = n := Option.some.inj h
      rw [symbolsFrom_cons_self]
      rfl
    | succ s =>
      have hplace : m + (s + 1) = m + 1 + s := by omega
      rw [hplace, List.take_succ_cons]
      by_cases hl : l = n
      · rw [hl, symbolsFrom_cons_self, List.count_cons_self, List.getElem?_cons_succ]
        exact ih h (m + 1)
      · rw [symbolsFrom_cons_of_ne hl, List.count_cons_of_ne hl]
        exact ih h (m + 1)

theorem length_symbolsFrom (m : Nat) (lengths : List Nat) (n : Nat) :
    (symbolsFrom m lengths n).length = lengths.count n := by
  induction lengths generalizing m with
  | nil => rfl
  | cons l lengths ih =>
    by_cases hl : l = n
    · rw [hl, symbolsFrom_cons_self, List.length_cons, ih, List.count_cons_self]
    · rw [symbolsFrom_cons_of_ne hl, ih, List.count_cons_of_ne hl]

/-- Symbols without a code at the end of a table have no part in it. -/
theorem symbolsFrom_append_zeros (m : Nat) (lengths : List Nat) (k : Nat) {n : Nat} (hn : n ≠ 0) :
    symbolsFrom m (lengths ++ List.replicate k 0) n = symbolsFrom m lengths n := by
  induction lengths generalizing m with
  | nil =>
    have hnone : (symbolsFrom m (List.replicate k 0) n).length = 0 := by
      rw [length_symbolsFrom, List.count_replicate, if_neg (by simpa using hn.symm)]
    rw [List.nil_append, List.length_eq_zero_iff.1 hnone]
    rfl
  | cons l lengths ih =>
    rw [List.cons_append]
    by_cases hl : l = n
    · rw [hl, symbolsFrom_cons_self, symbolsFrom_cons_self, ih]
    · rw [symbolsFrom_cons_of_ne hl, symbolsFrom_cons_of_ne hl, ih]

/-- The symbols of one length stand behind those of all shorter lengths. -/
theorem flatten_getElem? (f : Nat → List Nat) (d : Nat) {j n k : Nat} (hn : d < n)
    (hk : k < (f (j + d)).length) :
    ((List.range' j n).map f).flatten[skipped (fun i => (f i).length) j d + k]? =
      (f (j + d))[k]? := by
  induction d generalizing j n with
  | zero =>
    obtain ⟨n, rfl⟩ := Nat.exists_eq_succ_of_ne_zero (Nat.ne_zero_of_lt hn)
    rw [Nat.add_zero] at hk
    rw [List.range'_succ, List.map_cons, List.flatten_cons, skipped, Nat.zero_add,
      List.getElem?_append_left hk, Nat.add_zero]
  | succ d ih =>
    obtain ⟨n, rfl⟩ := Nat.exists_eq_succ_of_ne_zero (Nat.ne_zero_of_lt hn)
    have hplace : j + (d + 1) = j + 1 + d := by omega
    rw [hplace] at hk ⊢
    rw [List.range'_succ, List.map_cons, List.flatten_cons, skipped, Nat.add_assoc,
      List.getElem?_append_right (Nat.le_add_right _ _), Nat.add_sub_cancel_left]
    exact ih (Nat.lt_of_succ_lt_succ hn) hk

namespace Inflater.Table

variable (lengths : List Nat)

/-- The symbols with codes, by length. -/
def groups : List (List Nat) := (List.range' 0 15).map fun i => symbolsFrom 0 lengths (i + 1)

/-- A table holds, for each length, the number of its symbols, and the symbols themselves. -/
theorem ofLengths_eq :
    ofLengths lengths = ⟨(groups lengths).map List.length, (groups lengths).flatten.toArray⟩ := by
  rw [groups, ← List.range_eq_range']
  rfl

theorem counts_ofLengths :
    (ofLengths lengths).counts = (List.range' 0 15).map (countOf lengths) := by
  rw [ofLengths_eq, groups, List.map_map]
  exact List.map_congr_left fun i _ => length_symbolsFrom 0 lengths (i + 1)

/-- Symbols without a code at the end make no difference. -/
theorem ofLengths_append_zeros (m : Nat) :
    ofLengths (lengths ++ List.replicate m 0) = ofLengths lengths := by
  have hgroups : groups (lengths ++ List.replicate m 0) = groups lengths :=
    List.map_congr_left fun i _ => symbolsFrom_append_zeros 0 lengths m (Nat.succ_ne_zero i)
  rw [ofLengths_eq, ofLengths_eq, hgroups]

/-- The space of a table is its share of the longest codes. -/
theorem space_ofLengths : (ofLengths lengths).space = share (countOf lengths) 15 := by
  have hfold (n : Nat) : ((List.range n).map (countOf lengths)).foldl (fun s n => s * 2 + n) 0 =
      share (countOf lengths) n := by
    induction n with
    | zero => rfl
    | succ n ih =>
      rw [List.range_succ, List.map_append, List.foldl_append, ih, share, Nat.mul_comm 2]
      rfl
  rw [space, counts_ofLengths, ← List.range_eq_range']
  exact hfold 15

theorem isFull_iff : (ofLengths lengths).isFull = true ↔ Full lengths := by
  rw [isFull, space_ofLengths, decide_eq_true_iff]
  exact Iff.rfl

end Inflater.Table

/-! ### Canonical codes -/

theorem getD_push (xs : Array Nat) (x i : Nat) :
    (xs.push x).getD i 0 = if i = xs.size then x else xs.getD i 0 := by
  simp only [Array.getD_eq_getD_getElem?, Array.getElem?_push]
  split <;> rfl

theorem getD_setIfInBounds {xs : Array Nat} {i : Nat} (h : i < xs.size) (x j : Nat) :
    (xs.setIfInBounds i x).getD j 0 = if i = j then x else xs.getD j 0 := by
  simp only [Array.getD_eq_getD_getElem?, Array.getElem?_setIfInBounds, if_pos h]
  split <;> rfl

/-- The first code of a length is twice what the shorter lengths take away. -/
theorem firstCodes_getD (lengths : Array Nat) (limit : Nat) :
    (firstCodes lengths limit).size = limit + 1 ∧ (firstCodes lengths limit).getD 0 0 = 0 ∧
      ∀ l < limit,
        (firstCodes lengths limit).getD (l + 1) 0 = 2 * share (countOf lengths.toList) l := by
  unfold firstCodes
  induction limit with
  | zero => exact ⟨rfl, rfl, fun l hl => absurd hl (Nat.not_lt_zero l)⟩
  | succ n ih =>
    rw [List.range_succ, List.foldl_append, List.foldl_cons, List.foldl_nil]
    generalize (List.range n).foldl _ #[0] = firsts at ih
    obtain ⟨hsize, hzero, hfirst⟩ := ih
    refine ⟨?_, ?_, fun l hl => ?_⟩
    · rw [Array.size_push, hsize]
    · rw [getD_push, if_neg (by omega), hzero]
    · rw [getD_push, hsize]
      -- the new length starts behind the codes of the one before, twice as far
      by_cases hl : l = n
      · rw [if_pos (by omega), hl]
        cases n with
        | zero => rw [hzero]; rfl
        | succ m =>
          rw [hfirst m (Nat.lt_succ_self m), share, if_neg (Nat.succ_ne_zero m), countOf]
          omega
      · rw [if_neg (by omega), hfirst l (by omega)]

/-- One step of numbering codes: what is numbered, and the next code of each length. -/
def number (state : Array Nat × Array Nat) (length : Nat) : Array Nat × Array Nat :=
  if length = 0 then (state.1.push 0, state.2)
  else
    let code := state.2.getD length 0
    (state.1.push (reversed length code), state.2.setIfInBounds length (code + 1))

/-- A step gives one code, and counts the length it is of. -/
theorem number_step (codes : Array Nat) {nexts : Array Nat} {length : Nat}
    (hlength : length < nexts.size) :
    ∃ code nexts', number (codes, nexts) length = (codes.push code, nexts') ∧
      nexts'.size = nexts.size ∧
      code = (if length = 0 then 0 else reversed length (nexts.getD length 0)) ∧
      ∀ l, l ≠ 0 → nexts'.getD l 0 = nexts.getD l 0 + [length].count l := by
  unfold number
  by_cases hzero : length = 0
  · rw [if_pos hzero]
    refine ⟨_, _, rfl, rfl, (if_pos hzero).symm, fun l hl => ?_⟩
    rw [hzero, List.count_singleton, if_neg (by simpa using hl.symm), Nat.add_zero]
  · rw [if_neg hzero]
    refine ⟨_, _, rfl, Array.size_setIfInBounds .., (if_neg hzero).symm, fun l hl => ?_⟩
    rw [getD_setIfInBounds hlength, List.count_singleton]
    by_cases hl : length = l
    · rw [if_pos hl, if_pos (by simpa using hl), hl]
    · rw [if_neg hl, if_neg (by simpa using hl), Nat.add_zero]

/-- A symbol gets the next code of its length, and no code is given up again. -/
theorem number_foldl (lengths : List Nat) (codes nexts : Array Nat)
    (hbound : ∀ l ∈ lengths, l < nexts.size) :
    (∀ i < codes.size, ((lengths.foldl number (codes, nexts)).1).getD i 0 = codes.getD i 0) ∧
    ∀ s l, lengths[s]? = some l → ((lengths.foldl number (codes, nexts)).1).getD (codes.size + s) 0 =
      if l = 0 then 0 else reversed l (nexts.getD l 0 + (lengths.take s).count l) := by
  induction lengths generalizing codes nexts with
  | nil => exact ⟨fun _ _ => rfl, fun s l h => by cases h⟩
  | cons length lengths ih =>
    obtain ⟨code, nexts', hstep, hsize, hcode, hnext⟩ :=
      number_step codes (hbound length List.mem_cons_self)
    obtain ⟨hold, hnew⟩ := ih (codes.push code) nexts' fun l hl =>
      hsize.symm ▸ hbound l (List.mem_cons_of_mem _ hl)
    rw [Array.size_push] at hold hnew
    rw [List.foldl_cons, hstep]
    refine ⟨fun i hi => ?_, fun s l hs => ?_⟩
    · rw [hold i (by omega), getD_push, if_neg (by omega)]
    · cases s with
      | zero =>
        obtain rfl : length = l := Option.some.inj hs
        rw [Nat.add_zero, hold _ (Nat.lt_succ_self _), getD_push, if_pos rfl, hcode]
        rfl
      | succ s =>
        have hplace : codes.size + (s + 1) = codes.size + 1 + s := by omega
        rw [hplace, hnew s l hs]
        by_cases hl : l = 0
        · rw [if_pos hl, if_pos hl]
        · have hcount : (length :: lengths.take s).count l =
              [length].count l + (lengths.take s).count l := by
            show ([length] ++ lengths.take s).count l = _
            rw [List.count_append]
          rw [if_neg hl, if_neg hl, hnext l hl, List.take_succ_cons, hcount, Nat.add_assoc]

/-- The canonical code of a symbol is the first code of its length and the number of smaller symbols
of that length. -/
theorem canonicalCodes_getD {lengths : Array Nat} {limit : Nat}
    (hbound : ∀ l ∈ lengths.toList, l ≤ limit) {s l : Nat} (hs : lengths.toList[s]? = some (l + 1)) :
    (canonicalCodes lengths limit).getD s 0 =
      reversed (l + 1) (2 * share (countOf lengths.toList) l +
        (lengths.toList.take s).count (l + 1)) := by
  obtain ⟨hsize, -, hfirst⟩ := firstCodes_getD lengths limit
  have hl : l + 1 ≤ limit := hbound _ (List.mem_of_getElem? hs)
  obtain ⟨-, hnew⟩ := number_foldl lengths.toList #[] (firstCodes lengths limit) fun l hl => by
    rw [hsize]
    exact Nat.lt_succ_of_le (hbound l hl)
  have hcode := hnew s (l + 1) hs
  rw [if_neg (Nat.succ_ne_zero l), hfirst l hl] at hcode
  have hcodes : canonicalCodes lengths limit =
      (lengths.toList.foldl number (#[], firstCodes lengths limit)).1 := by
    rw [Array.foldl_toList]
    rfl
  rw [hcodes, ← hcode, List.size_toArray, List.length_nil, Nat.zero_add]

/-! ### Symbols -/

/-- The bits of a symbol. -/
def Coding.bits (coding : Coding) (s : Nat) : List Nat :=
  lowBits (coding.lengths.getD s 0) (coding.codes.getD s 0)

/-- A symbol with a code is among those of its length. -/
theorem rank_lt {lengths : List Nat} {s l : Nat} (hs : lengths[s]? = some (l + 1)) :
    (lengths.take s).count (l + 1) < countOf lengths l := by
  obtain ⟨hlt, _⟩ := List.getElem?_eq_some_iff.1 (symbolsFrom_getElem? hs 0)
  rwa [length_symbolsFrom] at hlt

section Symbols

variable {lengths : Array Nat} {limit : Nat}

/-- The bits of a symbol are its canonical code. -/
theorem bits_ofLengths (hbound : ∀ l ∈ lengths.toList, l ≤ limit) {s l : Nat}
    (hs : lengths.toList[s]? = some (l + 1)) :
    (Coding.ofLengths lengths limit).bits s = codeBits (l + 1)
      (2 * share (countOf lengths.toList) l + (lengths.toList.take s).count (l + 1)) := by
  have hlength : lengths.getD s 0 = l + 1 := by
    rw [Array.getD_eq_getD_getElem?, ← Array.getElem?_toList, hs]
    rfl
  show lowBits (lengths.getD s 0) ((canonicalCodes lengths limit).getD s 0) = _
  rw [hlength, canonicalCodes_getD hbound hs, lowBits_reversed]

/-- A symbol that has a code is written as its bits. -/
theorem Bits.symbol_writes {w : Bits} (h : w.Tidy) (hbound : ∀ l ∈ lengths.toList, l ≤ limit)
    {s l : Nat} (hs : lengths.toList[s]? = some (l + 1)) :
    w.Writes ((Coding.ofLengths lengths limit).bits s)
      (w.symbol (Coding.ofLengths lengths limit) s) := by
  have hlength : lengths.getD s 0 = l + 1 := by
    rw [Array.getD_eq_getD_getElem?, ← Array.getElem?_toList, hs]
    rfl
  refine Bits.put_writes h ?_
  show (canonicalCodes lengths limit).getD s 0 < 2 ^ lengths.getD s 0
  rw [hlength, canonicalCodes_getD hbound hs]
  exact reversed_lt _ _

end Symbols

namespace Inflater

variable {lengths : List Nat} {before : List Nat} {out : ByteArray}

/-- The symbols of a table, by length and rank. -/
theorem Table.symbols_getElem? {s l : Nat} (hl : l < 15) (hs : lengths[s]? = some (l + 1)) :
    (Table.ofLengths lengths).symbols[skipped (countOf lengths) 0 l +
      (lengths.take s).count (l + 1)]? = some s := by
  have hcounts : (fun i => (symbolsFrom 0 lengths (i + 1)).length) = countOf lengths :=
    funext fun i => length_symbolsFrom 0 lengths (i + 1)
  have hsymbol := symbolsFrom_getElem? hs 0
  rw [Nat.zero_add] at hsymbol
  have hrank : (lengths.take s).count (l + 1) < (symbolsFrom 0 lengths (0 + l + 1)).length := by
    rw [length_symbolsFrom, Nat.zero_add]
    exact rank_lt hs
  have hflat := flatten_getElem? (fun i => symbolsFrom 0 lengths (i + 1)) l hl hrank
  rw [hcounts, Nat.zero_add, hsymbol] at hflat
  rw [Table.ofLengths_eq, List.getElem?_toArray]
  exact hflat

/-- In a full table a symbol is read back from its canonical code. -/
theorem symbol_reads_full (hfull : Full lengths) {s l : Nat} (hl : l < 15)
    (hs : lengths[s]? = some (l + 1)) :
    Reads (symbol (Table.ofLengths lengths)) before out
      (codeBits (l + 1) (2 * share (countOf lengths) l + (lengths.take s).count (l + 1))) s out := by
  have hrank := rank_lt hs
  have hfits := share_le (Nat.le_of_eq hfull) (Nat.succ_le_of_lt hl)
  rw [share] at hfits
  have hsymbol : (Table.ofLengths lengths).symbols.getD
      (0 + skipped (countOf lengths) 0 l + (lengths.take s).count (l + 1)) 0 = s := by
    rw [Nat.zero_add, Array.getD_eq_getD_getElem?, Table.symbols_getElem? hl hs]
    rfl
  -- the code stays within the code space, so reading it starts at zero
  have hstart : 0 + share (countOf lengths) 0 =
      (2 * share (countOf lengths) l + (lengths.take s).count (l + 1)) / 2 ^ (l + 1) := by
    rw [Nat.div_eq_of_lt (by omega)]
    rfl
  have hread : Reads (symbolFrom (Table.ofLengths lengths).symbols
      ((List.range' 0 15).map (countOf lengths)) 0 0) before out _ _ out :=
    symbolFrom_reads (countOf lengths) _ l hl (by rwa [Nat.zero_add]) (by rw [Nat.zero_add]) hstart
  rw [hsymbol] at hread
  rw [symbol, if_pos ((Table.isFull_iff lengths).2 hfull), Table.counts_ofLengths]
  exact hread

/-- Where a single symbol has a code of one bit, there are no other codes. -/
theorem countOf_lone (hle : ∀ l ∈ lengths, l ≤ 1) (i : Nat) : countOf lengths (i + 1) = 0 := by
  rw [countOf, List.count_eq_zero]
  intro hmem
  have hsmall := hle _ hmem
  omega

/-- A single code of one bit takes half of the code space. -/
theorem not_full_lone (hone : lengths.count 1 = 1) (hle : ∀ l ∈ lengths, l ≤ 1) : ¬Full lengths := by
  have hshare (n : Nat) : share (countOf lengths) (n + 1) = 2 ^ n := by
    induction n with
    | zero =>
      show 2 * 0 + lengths.count 1 = 1
      rw [hone]
    | succ n ih => rw [share, ih, countOf_lone hle, Nat.pow_succ, Nat.mul_comm, Nat.add_zero]
  rw [Full, hshare 14]
  decide

/-- A symbol that has the table for itself is read back from its code, a zero. -/
theorem symbol_reads_lone (hone : lengths.count 1 = 1) (hle : ∀ l ∈ lengths, l ≤ 1) {s : Nat}
    (hs : lengths[s]? = some 1) :
    Reads (symbol (Table.ofLengths lengths)) before out [0] s out := by
  have hrank : (lengths.take s).count 1 < lengths.count 1 := rank_lt hs
  have hfirst : (lengths.take s).count 1 = 0 := by omega
  have hsymbol := Table.symbols_getElem? (by decide : 0 < 15) hs
  rw [Nat.zero_add, hfirst] at hsymbol
  have hnot : ¬(Table.ofLengths lengths).isFull = true :=
    fun h => not_full_lone hone hle ((Table.isFull_iff lengths).1 h)
  rw [symbol, if_neg hnot]
  rw [show (Table.ofLengths lengths).symbols[0]? = some s from hsymbol]
  exact (reads_bit 0).bind_last reads_pure

end Inflater

/-! ### Tables that can be used -/

/-- The codes fill the code space, or there is one code of a single bit, or there is none. -/
inductive Usable (lengths : List Nat) : Prop where
  | full (h : Full lengths)
  | lone (hone : lengths.count 1 = 1) (hle : ∀ l ∈ lengths, l ≤ 1)
  | none (h : ∀ l ∈ lengths, l = 0)

namespace Usable

open Inflater

/-- Such codes are accepted. -/
theorem isUsable {lengths : List Nat} (h : Usable lengths) :
    (Table.ofLengths lengths).isUsable = true := by
  have hsize : (Table.ofLengths lengths).symbols.size =
      ((List.range' 0 15).map (countOf lengths)).sum := by
    rw [Table.ofLengths_eq, List.size_toArray, List.length_flatten, ← Table.counts_ofLengths,
      Table.ofLengths_eq]
  -- a table that is not full is accepted with one code of length one, or with none
  rw [Table.isUsable]
  cases h with
  | full hfull => rw [(Table.isFull_iff lengths).2 hfull, Bool.true_or, Bool.true_or]
  | lone hone hle =>
    have hrest : (List.range' 1 14).map (countOf lengths) = List.replicate 14 0 := by
      rw [List.eq_replicate_iff]
      refine ⟨rfl, fun n hn => ?_⟩
      obtain ⟨i, hi, rfl⟩ := List.mem_map.1 hn
      obtain ⟨j, rfl⟩ := Nat.exists_eq_succ_of_ne_zero (Nat.ne_zero_of_lt (List.mem_range'_1.1 hi).1)
      exact countOf_lone hle j
    have hcounts : (List.range' 0 15).map (countOf lengths) = 1 :: List.replicate 14 0 := by
      rw [List.range'_succ, List.map_cons, hrest, countOf, hone]
    rw [hsize, Table.counts_ofLengths, hcounts]
    simp
  | none hzero =>
    have hcounts : (List.range' 0 15).map (countOf lengths) = List.replicate 15 0 := by
      rw [List.eq_replicate_iff]
      refine ⟨rfl, fun n hn => ?_⟩
      obtain ⟨i, _, rfl⟩ := List.mem_map.1 hn
      rw [countOf, List.count_eq_zero]
      exact fun hmem => Nat.succ_ne_zero i (hzero _ hmem)
    rw [hsize, hcounts]
    simp

/-- Each symbol that has a code is read back from its bits. -/
theorem symbol_reads {lengths : Array Nat} {limit : Nat} (h : Usable lengths.toList)
    (hlimit : limit ≤ 15) (hbound : ∀ l ∈ lengths.toList, l ≤ limit) {s l : Nat}
    (hs : lengths.toList[s]? = some (l + 1)) {before : List Nat} {out : ByteArray} :
    Reads (symbol (Table.ofLengths lengths.toList)) before out
      ((Coding.ofLengths lengths limit).bits s) s out := by
  have hmem := List.mem_of_getElem? hs
  have hl := hbound _ hmem
  rw [bits_ofLengths hbound hs]
  cases h with
  | full hfull => exact symbol_reads_full hfull (by omega) hs
  | lone hone hle =>
    obtain rfl : l = 0 := by
      have hsmall := hle _ hmem
      omega
    have hrank : (lengths.toList.take s).count 1 < lengths.toList.count 1 := rank_lt hs
    have hfirst : (lengths.toList.take s).count 1 = 0 := by omega
    rw [hfirst]
    exact symbol_reads_lone hone hle hs
  | none hzero => exact absurd (hzero _ hmem) (Nat.succ_ne_zero l)

end Usable

end Playground.Deflate
