import Playground.Proofs.Deflate.Blocks

/-!
# Copies stand for the bytes that follow

A copy is right at a place when the bytes from so far back agree with those that follow there:
copying them back, one by one, gives these.  Chains lead back, and a search along a chain keeps only
what agrees, so whatever it finds is right.
-/

namespace Playground.Deflate

/-! ### Bytes up to a place -/

section Extract

variable {bytes : ByteArray}

theorem get!_extract {n i : Nat} (hi : i < n) (hn : n ≤ bytes.size) :
    (bytes.extract 0 n).get! i = bytes.get! i := by
  have hsize : (bytes.extract 0 n).size = n := by
    rw [ByteArray.size_extract, Nat.min_eq_left hn, Nat.sub_zero]
  show (bytes.extract 0 n).data[i]! = bytes.data[i]!
  rw [getElem!_pos _ i (by rwa [ByteArray.size_data, hsize]),
    getElem!_pos _ i (by rw [ByteArray.size_data]; omega)]
  exact (ByteArray.getElem_extract (by rwa [hsize])).trans (by simp [ByteArray.getElem_eq_getElem_data])

/-- The bytes up to a place, and the one that stands there. -/
theorem extract_push {n : Nat} (hn : n < bytes.size) :
    (bytes.extract 0 n).push (bytes.get! n) = bytes.extract 0 (n + 1) := by
  have hone : bytes.extract n (n + 1) = [bytes[n]].toByteArray := ByteArray.extract_add_one hn
  have hget : bytes.get! n = bytes[n] := getElem!_pos bytes.data n hn
  rw [ByteArray.extract_eq_extract_append_extract n (Nat.zero_le n) (Nat.le_succ n), hone, hget]
  refine Bytes.ext_toList ?_
  rw [ByteArray.data_push, Array.toList_push, ByteArray.data_append, Array.toList_append]
  rfl

end Extract

/-! ### Right copies -/

/-- At a place, a copy gives the bytes that follow. -/
structure Found.Right (bytes : ByteArray) (place : Nat) (f : Found) : Prop where
  valid : (Piece.copy f.length f.distance).Valid
  within : place + f.length ≤ bytes.size
  back : f.distance ≤ place
  agrees : ∀ k < f.length, bytes.get! (place - f.distance + k) = bytes.get! (place + k)

/-- Nothing is found, or a copy that is right and longer than asked for. -/
def Found.Fair (bytes : ByteArray) (place least : Nat) (f : Found) : Prop :=
  f = ⟨least, 0⟩ ∨ least < f.length ∧ f.Right bytes place

/-- Bytes that are copied from so far back are those that follow, when these agree. -/
theorem copyBack_extract {bytes : ByteArray} {distance : Nat} (hnear : 1 ≤ distance) (n : Nat)
    {place : Nat} (hback : distance ≤ place) (hwithin : place + n ≤ bytes.size)
    (hagrees : ∀ k < n, bytes.get! (place - distance + k) = bytes.get! (place + k)) :
    Inflater.copyBack distance n (bytes.extract 0 place) = bytes.extract 0 (place + n) := by
  induction n generalizing place with
  | zero => rfl
  | succ n ih =>
    have hsize : (bytes.extract 0 place).size = place := by
      rw [ByteArray.size_extract, Nat.min_eq_left (by omega), Nat.sub_zero]
    -- the byte that is copied is the next one, and from there on the rest agrees
    have hbyte : (bytes.extract 0 place).get! (place - distance) = bytes.get! place := by
      rw [get!_extract (by omega) (by omega)]
      exact hagrees 0 (Nat.succ_pos n)
    have hrest (k : Nat) (hk : k < n) :
        bytes.get! (place + 1 - distance + k) = bytes.get! (place + 1 + k) := by
      have hfrom : place + 1 - distance + k = place - distance + (k + 1) := by omega
      have hto : place + 1 + k = place + (k + 1) := by omega
      rw [hfrom, hto]
      exact hagrees (k + 1) (Nat.succ_lt_succ hk)
    have hplace : place + (n + 1) = place + 1 + n := by omega
    rw [Inflater.copyBack, hsize, if_pos hback, hbyte, extract_push (by omega), hplace]
    exact ih (by omega) (by omega) hrest

/-! ### The search -/

/-- As many bytes agree as are counted, up to the limit. -/
theorem agreeing_spec (bytes : ByteArray) (a b limit : Nat) :
    agreeing bytes a b limit ≤ limit ∧
      ∀ k < agreeing bytes a b limit, bytes.get! (a + k) = bytes.get! (b + k) := by
  induction limit generalizing a b with
  | zero => exact ⟨Nat.le_refl 0, fun k hk => absurd hk (Nat.not_lt_zero k)⟩
  | succ n ih =>
    rw [agreeing]
    by_cases hbyte : (bytes.get! a == bytes.get! b) = true
    · obtain ⟨hle, hagrees⟩ := ih (a + 1) (b + 1)
      rw [if_pos hbyte]
      refine ⟨Nat.succ_le_succ hle, fun k hk => ?_⟩
      cases k with
      | zero => exact beq_iff_eq.1 hbyte
      | succ k =>
        have hnext := hagrees k (Nat.lt_of_succ_lt_succ hk)
        rwa [Nat.succ_add_eq_add_succ, Nat.succ_add_eq_add_succ] at hnext
    · rw [if_neg hbyte]
      exact ⟨Nat.zero_le _, fun k hk => absurd hk (Nat.not_lt_zero k)⟩

/-- A chain leads back from every place. -/
def Backward (chain : Array Nat) : Prop := ∀ i, chain.getD i 0 ≤ i - 1

/-- The chains of some bytes lead back. -/
theorem chains_backward (bytes : ByteArray) : Backward (chains bytes) := by
  -- whatever places are hashed to, the heads and the chains hold earlier places only
  have hloop (n : Nat) (f : Array Nat × Array Nat → Nat → Array Nat × Array Nat)
      (hf : ∀ state i, ∃ h, f state i =
        (state.1.setIfInBounds h i, state.2.push (state.1.getD h 0))) :
      (∀ h, ((List.range n).foldl f (Array.replicate hashSize 0, #[])).1.getD h 0 ≤ n - 1) ∧
        ((List.range n).foldl f (Array.replicate hashSize 0, #[])).2.size = n ∧
        Backward ((List.range n).foldl f (Array.replicate hashSize 0, #[])).2 := by
    induction n with
    | zero =>
      exact ⟨fun h => Nat.le_of_eq (getD_replicate_zero hashSize h), rfl, fun i => Nat.zero_le _⟩
    | succ n ih =>
      rw [List.range_succ, List.foldl_append, List.foldl_cons, List.foldl_nil]
      generalize (List.range n).foldl f (Array.replicate hashSize 0, #[]) = state at ih ⊢
      obtain ⟨hheads, hsize, hback⟩ := ih
      obtain ⟨h, hstep⟩ := hf state n
      rw [hstep]
      dsimp only
      refine ⟨fun h' => ?_, ?_, fun i => ?_⟩
      · have hold := hheads h'
        by_cases hin : h < state.1.size
        · rw [getD_setIfInBounds hin]
          split <;> omega
        · rw [Array.setIfInBounds_eq_of_size_le (Nat.le_of_not_lt hin)]
          omega
      · rw [Array.size_push, hsize]
      · rw [getD_push]
        by_cases hi : i = state.2.size
        · rw [if_pos hi, hi, hsize]
          exact hheads h
        · rw [if_neg hi]
          exact hback i
  exact (hloop (bytes.size - 2) _ fun state i => ⟨_, rfl⟩).2.2

section Search

variable {bytes : ByteArray} {chain : Array Nat} {place reach limit least : Nat}
  (hreach : reach ≤ windowSize) (hlimit : limit ≤ maxCopy) (hwithin : place + limit ≤ bytes.size)
include hreach hlimit hwithin

/-- Bytes that agree with those at an earlier place are a right copy. -/
theorem agreeing_right {earlier : Nat} (hearlier : earlier < place)
    (hnear : place - earlier ≤ reach) (hlong : minCopy ≤ agreeing bytes earlier place limit) :
    Found.Right bytes place ⟨agreeing bytes earlier place limit, place - earlier⟩ := by
  obtain ⟨hle, hagrees⟩ := agreeing_spec bytes earlier place limit
  refine ⟨⟨⟨hlong, Nat.le_trans hle hlimit⟩, ?_, Nat.le_trans hnear hreach⟩, ?_, Nat.sub_le .., ?_⟩
  · exact Nat.sub_pos_of_lt hearlier
  · exact Nat.le_trans (Nat.add_le_add_left hle place) hwithin
  · intro k hk
    rw [Nat.sub_sub_self (Nat.le_of_lt hearlier)]
    exact hagrees k hk

/-- A place that agrees further than what was found before replaces it. -/
theorem Found.Fair.improve {best : Found} (hbest : best.Fair bytes place least)
    (hleast : 2 ≤ least) {earlier : Nat} (hearlier : earlier < place)
    (hnear : place - earlier ≤ reach) :
    Found.Fair bytes place least (if agreeTwo bytes earlier place = true then
      if agreeing bytes earlier place limit > best.length then
        ⟨agreeing bytes earlier place limit, place - earlier⟩
      else best
    else best) := by
  split
  · split
    · rename_i hlonger
      have hlong : least < agreeing bytes earlier place limit := by
        rcases hbest with hbest | ⟨hbest, _⟩
        · rwa [hbest] at hlonger
        · exact Nat.lt_trans hbest hlonger
      exact .inr ⟨hlong, agreeing_right hreach hlimit hwithin hearlier hnear
        (Nat.lt_of_le_of_lt hleast hlong)⟩
    · exact hbest
  · exact hbest

variable (hchain : Backward chain) (hleast : 2 ≤ least)
include hchain hleast

/-- Whatever was found before, following a chain finds nothing worse. -/
theorem follow_fair {fuel i rounds tries : Nat} (hi : i ≤ place) {best : Found}
    (hbest : best.Fair bytes place least) :
    (follow bytes chain place reach limit fuel i rounds tries best).Fair bytes place least := by
  induction fuel generalizing i rounds tries best with
  | zero => exact hbest
  | succ fuel ih =>
    rw [follow]
    by_cases hdone : (tries = 0 && rounds ≤ 1) = true
    · rw [if_pos hdone]
      exact hbest
    rw [if_neg hdone]
    generalize (if tries = 0 then (rounds - 1, 3) else (rounds, tries)) = left
    obtain ⟨rounds, tries⟩ := left
    have hback := hchain i
    dsimp only
    generalize chain.getD i 0 = earlier at hback ⊢
    by_cases hend : (earlier % 65536 = 0 || place - earlier > reach) = true
    · rw [if_pos hend]
      exact hbest
    rw [if_neg hend]
    simp only [Bool.or_eq_true, decide_eq_true_eq, not_or] at hend
    obtain ⟨hnonzero, hnear⟩ := hend
    -- the chain does not end here, so it leads back indeed
    have hearlier : earlier < place := by omega
    have hbetter := hbest.improve hreach hlimit hwithin hleast hearlier (Nat.not_lt.1 hnear)
    split
    · generalize (if agreeTwo bytes earlier place = true then _ else best) = better at hbetter ⊢
      split
      · exact hbetter
      · exact ih (Nat.le_of_lt hearlier) hbetter
    · exact ih (Nat.le_of_lt hearlier) hbest

/-- What is found at a place is right. -/
theorem longest_fair :
    (longest bytes chain place reach limit least).Fair bytes place least := by
  rw [longest]
  split
  · exact .inl rfl
  · exact follow_fair hreach hlimit hwithin hchain hleast (Nat.le_refl place) (.inl rfl)

end Search

end Playground.Deflate
