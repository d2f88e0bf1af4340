/-!
# Positions in a text

Lines and columns are counted from one, and columns count characters.  `Position.ofOffset` goes
back from a byte offset to where a character starts, and counts what stands in front: an offset
inside of a character has the position of that character, and one behind the text has the position
of its end.

Texts are read by byte offsets, and what is read makes sense only where characters start.

* `Boundary` — a character starts at an offset, or the text ends there;
* `Boundary.next` — behind a character the next one starts, or the text ends.
-/

namespace Playground.Text

/-! ### Lines and columns -/

/-- The characters behind the last line break. -/
def lastLine (cs : List Char) : List Char := (cs.reverse.takeWhile (· ≠ '\n')).reverse

/-- The last byte offset, going back from one, at which a character starts or the text ends. -/
def boundaryBelow (text : String) : Nat → Nat
  | 0 => 0
  | n + 1 => if String.Pos.Raw.isValid text ⟨n + 1⟩ then n + 1 else boundaryBelow text n

/-- A place in a text. -/
structure Position where
  line : Nat
  column : Nat
deriving DecidableEq, Inhabited, Repr

namespace Position

/-- Where a text starts. -/
def start : Position := ⟨1, 1⟩

/-- The position behind a character. -/
def after (p : Position) (c : Char) : Position :=
  if c = '\n' then ⟨p.line + 1, 1⟩ else ⟨p.line, p.column + 1⟩

/-- The largest line and the largest column: the largest number of thirty-two bits. -/
def limit : Nat := 4294967295

/-- The position behind some characters, where lines and columns that are too large stay at the
largest. -/
def behind (front : List Char) : Position :=
  ⟨min (front.count '\n' + 1) limit, min ((lastLine front).length + 1) limit⟩

/-- The position of a byte offset. -/
def ofOffset (source : String) (offset : Nat) : Position :=
  let stop := boundaryBelow source (min offset source.utf8ByteSize)
  behind (String.Pos.Raw.extract source ⟨0⟩ ⟨stop⟩).toList

end Position

/-! ### Boundaries of characters -/

/-- The bytes that some characters take. -/
def width : List Char → Nat
  | [] => 0
  | c :: cs => c.utf8Size + width cs

@[simp] theorem width_nil : width [] = 0 := rfl

@[simp] theorem width_cons (c : Char) (cs : List Char) :
    width (c :: cs) = c.utf8Size + width cs := rfl

@[simp] theorem width_append (cs ds : List Char) : width (cs ++ ds) = width cs + width ds := by
  induction cs with
  | nil => exact (Nat.zero_add _).symm
  | cons c cs ih => rw [List.cons_append, width_cons, width_cons, ih, Nat.add_assoc]

/-- A text takes the bytes its characters take. -/
theorem width_toList (text : String) : width text.toList = text.utf8ByteSize := by
  have hsize : ∀ cs : List Char, (String.ofList cs).utf8ByteSize = width cs := by
    intro cs
    induction cs with
    | nil => rfl
    | cons c cs ih =>
      rw [← List.singleton_append, String.ofList_append, String.utf8ByteSize_append, ih]
      simp
  rw [← hsize, String.ofList_toList]

/-- Whether a character starts at a byte of a text, or the text ends there. -/
def Boundary (text : String) (i : Nat) : Prop :=
  ∃ before behind, text.toList = before ++ behind ∧ i = width before

variable {text : String} {i : Nat}

theorem boundary_zero (text : String) : Boundary text 0 := ⟨[], text.toList, rfl, rfl⟩

/-- Behind some characters the next one is found. -/
theorem get_behind (before behind : List Char) (c : Char) (start : Nat) :
    String.Pos.Raw.utf8GetAux (before ++ c :: behind) ⟨start⟩ ⟨start + width before⟩ = c := by
  induction before generalizing start with
  | nil => exact if_pos rfl
  | cons d before ih =>
    have hpos := d.utf8Size_pos
    have hne : (⟨start⟩ : String.Pos.Raw) ≠ ⟨start + width (d :: before)⟩ := by
      simp only [ne_eq, String.Pos.Raw.mk.injEq, width_cons]
      omega
    refine (if_neg hne).trans ?_
    rw [width_cons, ← Nat.add_assoc]
    exact ih (start + d.utf8Size)

/-- Behind a character the next one starts, or the text ends. -/
theorem Boundary.next (h : Boundary text i) (hi : i < text.utf8ByteSize) :
    Boundary text (i + (String.Pos.Raw.get text ⟨i⟩).utf8Size) := by
  obtain ⟨before, behind, htext, rfl⟩ := h
  cases behind with
  | nil =>
    rw [← width_toList, htext, List.append_nil] at hi
    exact absurd hi (Nat.lt_irrefl _)
  | cons c behind =>
    have hget : String.Pos.Raw.get text ⟨width before⟩ = c := by
      have hbehind := get_behind before behind c 0
      rwa [← htext, Nat.zero_add] at hbehind
    rw [hget]
    exact ⟨before ++ [c], behind, by simp [htext], by simp⟩

end Playground.Text
