import Mathlib.Data.List.GetD
import Mathlib.Data.List.Induction
import Mathlib.Logic.Function.Basic
import Playground.Proofs.Text.Cutting
import Playground.Session.WatchStatus

/-!
# What a watched terminal shows

Every status that is shown goes back over the lines of the one before and clears them, unless it was
left alone in between.  What a terminal shows is told by its lines: they are those of the statuses
that were left alone, and of the latest one.  Sixteen bits hold the number of lines to go back, so
that a status with 65536 lines or more is not erased as a whole.

* `Terminal.obey` — a terminal that takes orders;
* `Terminal.standing` — a terminal that has printed some lines;
* `print_lines`, `obey_erase` — what orders make of these lines;
* `screen_display` — what showing a status makes of them;
* `status_overwritten` — what is printed, and what stands on the terminal after any calls.
-/

namespace Playground.Session

open Playground.Text
open Remark (dimmed escape inColour)

/-! ### Terminals -/

/-- A terminal with room for all that is printed: its lines, and where its cursor is. -/
@[ext]
structure Terminal where
  line : Nat → List Char := fun _ => []
  row : Nat := 0
  column : Nat := 0

namespace Terminal

/-- A line with another character in a column. -/
def overwrite (line : List Char) (column : Nat) (c : Char) : List Char :=
  line.take column ++ List.replicate (column - line.length) ' ' ++ c :: line.drop (column + 1)

/-- Prints a character. -/
def put (t : Terminal) (c : Char) : Terminal :=
  if c = '\n' then { t with row := t.row + 1, column := 0 }
  else
    { t with
      line := Function.update t.line t.row (overwrite (t.line t.row) t.column c)
      column := t.column + 1 }

/-- Takes an order; to go up no lines is to go up one. -/
def obey (t : Terminal) : TerminalOrder → Terminal
  | .up lines => { t with row := t.row - max 1 lines.toNat }
  | .clearDown =>
    { t with
      line := fun k =>
        if k < t.row then t.line k else if k = t.row then (t.line k).take t.column else [] }
  | .print text => text.toList.foldl put t

/-- A terminal on which some lines stand, and behind them the start of one more. -/
def standing (rows : List (List Char)) (part : List Char) : Terminal :=
  ⟨fun k => (rows ++ [part]).getD k [], rows.length, part.length⟩

variable {rows : List (List Char)} {part : List Char}

/-- To start a line is to add nothing to it. -/
theorem getD_concat_nil (rows : List (List Char)) (k : Nat) :
    (rows ++ [[]]).getD k [] = rows.getD k [] := by
  by_cases hk : k < rows.length
  · exact List.getD_append _ _ _ _ hk
  · have hle := Nat.le_of_not_lt hk
    rw [List.getD_append_right _ _ _ _ hle, List.getD_eq_default _ _ hle]
    cases k - rows.length <;> rfl

theorem line_standing (k : Nat) : (standing rows part).line k =
    if k < rows.length then rows.getD k [] else if k = rows.length then part else [] := by
  unfold standing
  dsimp only
  split
  · next hlt => exact List.getD_append _ _ _ _ hlt
  · next hlt =>
    rw [List.getD_append_right _ _ _ _ (Nat.le_of_not_lt hlt)]
    split
    · next heq => rw [heq, Nat.sub_self, List.getD_cons_zero]
    · next hne => exact List.getD_eq_default _ _ (by rw [List.length_singleton]; omega)

theorem ext_standing {t : Terminal} (hline : ∀ k, t.line k = (standing rows part).line k)
    (hrow : t.row = rows.length) (hcolumn : t.column = part.length) : t = standing rows part :=
  Terminal.ext (funext hline) hrow hcolumn

theorem overwrite_end (line : List Char) (c : Char) :
    overwrite line line.length c = line ++ [c] := by
  rw [overwrite, List.take_length, Nat.sub_self, List.replicate_zero, List.append_nil,
    List.drop_eq_nil_of_le (Nat.le_succ _)]

/-- A line break ends the line that was started. -/
theorem put_newline : (standing rows part).put '\n' = standing (rows ++ [part]) [] := by
  rw [put, if_pos rfl]
  refine ext_standing (fun k => (getD_concat_nil _ k).symm) ?_ rfl
  rw [List.length_append, List.length_singleton]
  rfl

/-- Any other character goes to the end of the line that was started. -/
theorem put_char {c : Char} (hc : c ≠ '\n') :
    (standing rows part).put c = standing rows (part ++ [c]) := by
  rw [put, if_neg hc]
  refine ext_standing (fun k => ?_) rfl (by rw [List.length_append]; rfl)
  have hpart : (standing rows part).line rows.length = part := by
    rw [line_standing, if_neg (Nat.lt_irrefl _), if_pos rfl]
  show Function.update (standing rows part).line rows.length
    (overwrite ((standing rows part).line rows.length) part.length c) k = _
  rw [hpart, overwrite_end, Function.update_apply, line_standing, line_standing]
  split
  · next heq => rw [heq, if_neg (Nat.lt_irrefl _)]
  · rfl

theorem print_chars {cs : List Char} (hcs : '\n' ∉ cs) :
    cs.foldl put (standing rows part) = standing rows (part ++ cs) := by
  induction cs generalizing part with
  | nil => rw [List.append_nil]; rfl
  | cons c cs ih =>
    rw [List.mem_cons, not_or] at hcs
    rw [List.foldl_cons, put_char (Ne.symm hcs.1), ih hcs.2, List.append_assoc,
      List.singleton_append]

/-- Printing lines leaves them behind those that stand there. -/
theorem print_lines {lines : List (List Char)} (h : ∀ l ∈ lines, '\n' ∉ l) :
    (lines.flatMap (· ++ ['\n'])).foldl put (standing rows []) = standing (rows ++ lines) [] := by
  induction lines generalizing rows with
  | nil => rw [List.append_nil]; rfl
  | cons l lines ih =>
    obtain ⟨hl, hlines⟩ := List.forall_mem_cons.1 h
    rw [List.flatMap_cons, List.foldl_append, List.foldl_append, print_chars hl, List.nil_append,
      List.foldl_cons, List.foldl_nil, put_newline, ih hlines, List.append_assoc,
      List.singleton_append]

/-! ### Erasing -/

/-- How many lines a terminal goes back to erase some. -/
def rise (lines : Nat) : Nat := if lines = 0 then 0 else max 1 (lines % 65536)

/-- Fewer lines than sixteen bits can count are erased as a whole. -/
theorem rise_eq {lines : Nat} (h : lines < 65536) : rise lines = lines := by
  unfold rise
  split
  · next hzero => exact hzero.symm
  · next hpos => rw [Nat.mod_eq_of_lt h, Nat.max_eq_right (by omega)]

theorem clearDown_standing (rows : List (List Char)) (row : Nat) (h : row ≤ rows.length) :
    obey { standing rows [] with row } .clearDown = standing (rows.take row) [] := by
  refine ext_standing (fun k => ?_) ?_ rfl
  · show (if k < row then (standing rows []).line k
      else if k = row then ((standing rows []).line k).take 0 else []) = _
    rw [line_standing, line_standing, List.length_take, Nat.min_eq_left h, List.take_zero]
    split
    · next hk =>
      rw [if_pos (Nat.lt_of_lt_of_le hk h), List.getD_eq_getElem?_getD,
        List.getD_eq_getElem?_getD, List.getElem?_take_of_lt hk]
    · rfl
  · rw [List.length_take, Nat.min_eq_left h]
    rfl

/-- Erasing some lines takes the last of those that stand there away. -/
theorem obey_erase (rows : List (List Char)) (lines : Nat) :
    (WatchStatus.erase lines).foldl obey (standing rows []) =
      standing (rows.take (rows.length - rise lines)) [] := by
  unfold WatchStatus.erase rise
  split
  · rw [Nat.sub_zero, List.take_length]
    rfl
  · rw [List.foldl_cons, List.foldl_cons, List.foldl_nil]
    have hnarrow : lines.toUInt16.toNat = lines % 65536 := UInt16.toNat_ofNat'
    rw [← clearDown_standing rows _ (Nat.sub_le _ _), ← hnarrow]
    rfl

end Terminal

/-! ### The lines of a status -/

/-- The lines of a text that ends with a line break. -/
def linesOf (text : String) : List (List Char) := (pieces '\n' text.toList).dropLast

theorem linesOf_concat {text : String} {cs : List Char} (h : text.toList = cs ++ ['\n']) :
    linesOf text = pieces '\n' cs := by
  rw [linesOf, h, pieces_append]
  exact List.dropLast_concat

/-- A text that ends with a line break has as many lines as line breaks. -/
theorem length_linesOf {text : String} {cs : List Char} (h : text.toList = cs ++ ['\n']) :
    (linesOf text).length = text.toList.count '\n' := by
  rw [linesOf_concat h, length_pieces, h, List.count_append]
  rfl

/-- Printing a text that ends with a line break leaves its lines behind those that stand there. -/
theorem Terminal.obey_print (rows : List (List Char)) {text : String} {cs : List Char}
    (h : text.toList = cs ++ ['\n']) :
    (standing rows []).obey (.print text) = standing (rows ++ linesOf text) [] := by
  rw [linesOf_concat h, ← print_lines fun l => not_mem_of_mem_pieces,
    flatMap_concat_eq pieces_ne_nil, joined_pieces, ← h]
  rfl

/-- The digits of a number are no line breaks. -/
theorem newline_not_mem_toString (n : Nat) : '\n' ∉ (toString n).toList := by
  intro hmem
  have hdigit : '\n'.isDigit = true :=
    Nat.isDigit_of_mem_toDigits (by decide) (by decide) (Nat.toList_repr ▸ hmem)
  cases hdigit

theorem newline_not_mem_twoDigits (n : Nat) : '\n' ∉ (twoDigits n).toList := by
  unfold twoDigits
  split
  · rw [String.toList_append, List.mem_append, not_or]
    exact ⟨by decide, newline_not_mem_toString n⟩
  · exact newline_not_mem_toString n

theorem newline_not_mem_timeOfDay (seconds : Nat) : '\n' ∉ (timeOfDay seconds).toList := by
  simp only [timeOfDay, String.toList_append, List.mem_append, not_or]
  exact ⟨⟨⟨⟨newline_not_mem_twoDigits _, by decide⟩, newline_not_mem_twoDigits _⟩, by decide⟩,
    newline_not_mem_twoDigits _⟩

namespace Status

variable (s : Status)

theorem newline_not_mem_mark : '\n' ∉ s.mark.toList := by
  have hmarks : '\n' ∉ (inColour "32" "✓").toList ∧ '\n' ∉ (inColour "31" "✗").toList := by decide
  cases s with
  | success => exact hmarks.1
  | failure => exact hmarks.2

theorem block_toList (time : String) : ∃ front, (s.block time).toList = front ++ ['\n'] := by
  rw [block, String.toList_append]
  exact ⟨_, rfl⟩

/-- A status is shown in as many lines as are counted for it. -/
theorem count_block (seconds : Nat) :
    (s.block (timeOfDay seconds)).toList.count '\n' = s.lines := by
  have htime := List.count_eq_zero.2 (newline_not_mem_timeOfDay seconds)
  have hmark := List.count_eq_zero.2 s.newline_not_mem_mark
  have hframe : (dimmed "[" ++ "]" ++ " " ++ " " ++ "\n").toList.count '\n' = 1 := by decide
  have hlines : s.lines = s.message.toList.count '\n' + 1 := by
    rw [lines, List.count_eq_length_filter]
    rfl
  simp only [block, dimmed, String.toList_append, List.count_append] at hframe ⊢
  omega

end Status

/-! ### Calls -/

/-- What is asked of the status of a watch. -/
inductive StatusCall where
  /-- to show a status, so many seconds after some midnight -/
  | display (s : Status) (seconds : Nat)
  /-- to leave what is shown alone -/
  | detach

namespace StatusCall

/-- How many line breaks a call prints. -/
def height : StatusCall → Nat
  | display s seconds => (s.block (timeOfDay seconds)).toList.count '\n'
  | detach => 0

/-- What a call makes of the status of a watch and of the terminal. -/
def step : WatchStatus × Terminal → StatusCall → WatchStatus × Terminal
  | (w, t), display s seconds =>
    ((w.display (timeOfDay seconds) s).2, (w.orders (timeOfDay seconds) s).foldl Terminal.obey t)
  | (w, t), detach => (w.detach, t)

/-- The status of a watch behind some calls, and the terminal. -/
def behind (calls : List StatusCall) : WatchStatus × Terminal := calls.foldl step ({}, {})

/-- Whether no status is left to be overwritten behind some calls. -/
def Detached (calls : List StatusCall) : Prop :=
  calls = [] ∨ ∃ earlier, calls = earlier ++ [detach]

/-- The lines of the status that was shown last. -/
def latestLines (calls : List StatusCall) : List (List Char) :=
  match calls.getLast? with
  | some (display s seconds) => linesOf (s.block (timeOfDay seconds))
  | _ => []

theorem latestLines_concat (calls : List StatusCall) (s : Status) (seconds : Nat) :
    latestLines (calls ++ [display s seconds]) = linesOf (s.block (timeOfDay seconds)) := by
  rw [latestLines, List.getLast?_concat]

theorem length_latestLines (calls : List StatusCall) (c : StatusCall) :
    (latestLines (calls ++ [c])).length = c.height := by
  cases c with
  | display s seconds =>
    obtain ⟨front, hfront⟩ := s.block_toList (timeOfDay seconds)
    rw [latestLines_concat, length_linesOf hfront, height]
  | detach =>
    rw [latestLines, List.getLast?_concat]
    rfl

theorem behind_concat (calls : List StatusCall) (c : StatusCall) :
    behind (calls ++ [c]) = step (behind calls) c :=
  List.foldl_concat ..

/-- What is remembered is how many line breaks the last call printed. -/
theorem lines_behind (calls : List StatusCall) (c : StatusCall) :
    (behind (calls ++ [c])).1.lines = c.height := by
  rw [behind_concat]
  cases c with
  | display s seconds => exact (s.count_block seconds).symm
  | detach => rfl

theorem Detached.lines {calls : List StatusCall} (h : Detached calls) :
    (behind calls).1.lines = 0 := by
  obtain rfl | ⟨earlier, rfl⟩ := h
  · rfl
  · exact lines_behind earlier detach

/-- Showing a status takes away what is erased, and leaves its lines behind the rest. -/
theorem screen_display {calls : List StatusCall} {rows : List (List Char)}
    (h : (behind calls).2 = .standing rows []) (s : Status) (seconds : Nat) :
    (behind (calls ++ [display s seconds])).2 =
      .standing (rows.take (rows.length - Terminal.rise (behind calls).1.lines) ++
        linesOf (s.block (timeOfDay seconds))) [] := by
  obtain ⟨front, hfront⟩ := s.block_toList (timeOfDay seconds)
  rw [behind_concat]
  show ((behind calls).1.orders (timeOfDay seconds) s).foldl Terminal.obey (behind calls).2 = _
  rw [h, WatchStatus.orders, List.foldl_append, Terminal.obey_erase, List.foldl_cons,
    List.foldl_nil, Terminal.obey_print _ hfront]

theorem screen_nil : (behind []).2 = .standing [] [] :=
  Terminal.ext (funext fun k => by cases k <;> rfl) rfl rfl

/-- Behind any calls, lines stand on the terminal and the cursor behind them. -/
theorem exists_screen (calls : List StatusCall) :
    ∃ rows, (behind calls).2 = .standing rows [] := by
  induction calls using List.reverseRecOn with
  | nil => exact ⟨[], screen_nil⟩
  | append_singleton calls c ih =>
    obtain ⟨rows, hrows⟩ := ih
    cases c with
    | display s seconds => exact ⟨_, screen_display hrows s seconds⟩
    | detach => exact ⟨rows, by rw [behind_concat]; exact hrows⟩

/-- Statuses that are not too high are overwritten as a whole: behind the lines that were left alone
stand those of the latest one. -/
theorem screen_latest {earlier since : List StatusCall} {rows : List (List Char)}
    (hrows : (behind earlier).2 = .standing rows []) (hearlier : Detached earlier)
    (hsince : detach ∉ since) (hheight : ∀ c ∈ since.dropLast, c.height < 65536) :
    (behind (earlier ++ since)).2 = .standing (rows ++ latestLines since) [] := by
  induction since using List.reverseRecOn with
  | nil =>
    rw [List.append_nil, latestLines, List.getLast?_nil, List.append_nil]
    exact hrows
  | append_singleton since c ih =>
    rw [List.mem_append, not_or, List.mem_singleton] at hsince
    rw [List.dropLast_concat] at hheight
    have hscreen := ih hsince.1 fun c hc => hheight c (List.mem_of_mem_dropLast hc)
    -- what is erased is what the call before has shown, if there was one
    have herased : (rows ++ latestLines since).take ((rows ++ latestLines since).length -
        Terminal.rise (behind (earlier ++ since)).1.lines) = rows := by
      obtain rfl | ⟨before, c', rfl⟩ := List.eq_nil_or_concat' since
      · have hnone : latestLines [] = [] := rfl
        rw [List.append_nil, hearlier.lines, hnone, List.append_nil, Terminal.rise, if_pos rfl,
          Nat.sub_zero, List.take_length]
      · have hfits := hheight c' (List.mem_append_right _ List.mem_cons_self)
        rw [← List.append_assoc, lines_behind, Terminal.rise_eq hfits, List.length_append,
          length_latestLines, Nat.add_sub_cancel, List.take_left]
    cases c with
    | detach => exact absurd rfl hsince.2
    | display s seconds =>
      rw [← List.append_assoc, screen_display hscreen, herased, latestLines_concat]

/-! ### What is printed -/

theorem display_alone {w : WatchStatus} (h : w.lines = 0) (time : String) (s : Status) :
    (w.display time s).1 = s.block time := by
  simp only [WatchStatus.display, WatchStatus.orders, WatchStatus.erase, if_pos h, List.nil_append,
    List.map_cons, List.map_nil, TerminalOrder.code, String.join_cons, String.join_nil,
    String.append_empty]

theorem display_erasing {w : WatchStatus} (h : w.lines ≠ 0) (time : String) (s : Status) :
    (w.display time s).1 =
      "\x1b[" ++ toString (w.lines % 65536) ++ "A\x1b[J" ++ s.block time := by
  have hnarrow : w.lines.toUInt16.toNat = w.lines % 65536 := UInt16.toNat_ofNat'
  have hup : "\x1b[" = escape ++ "[" := by decide
  have hclear : "A\x1b[J" = "A" ++ (escape ++ "[J") := by decide
  simp only [WatchStatus.display, WatchStatus.orders, WatchStatus.erase, if_neg h, hnarrow, hup,
    hclear, List.cons_append, List.nil_append, List.map_cons, List.map_nil, TerminalOrder.code,
    String.join_cons, String.join_nil, String.append_assoc, String.append_empty]

/-- Showing a status prints it alone if none is left to be overwritten, and otherwise first goes up
by the number of lines that the one before has printed, as far as sixteen bits hold it, and clears
what is there.  The terminal then shows what was left alone and the latest status; of a status with
65536 lines or more, some stay. -/
theorem status_overwritten (calls : List StatusCall) (s : Status) (seconds : Nat) :
    (Detached calls →
      ((behind calls).1.display (timeOfDay seconds) s).1 = s.block (timeOfDay seconds)) ∧
    (∀ earlier s' seconds', calls = earlier ++ [display s' seconds'] →
      let written := (s'.block (timeOfDay seconds')).toList.count '\n'
      ((behind calls).1.display (timeOfDay seconds) s).1 =
          "\x1b[" ++ toString (written % 65536) ++ "A\x1b[J" ++ s.block (timeOfDay seconds) ∧
        (written % 65536 = written ↔ written < 65536) ∧
        ∀ rows, (behind calls).2 = .standing rows [] →
          (behind (calls ++ [display s seconds])).2 =
            .standing (rows.take (rows.length - max 1 (written % 65536)) ++
              linesOf (s.block (timeOfDay seconds))) []) ∧
    ∀ earlier since, calls = earlier ++ since → Detached earlier → detach ∉ since →
      (∀ c ∈ since.dropLast, c.height < 65536) →
      ∃ rows, (behind earlier).2 = .standing rows [] ∧
        (behind calls).2 = .standing (rows ++ latestLines since) [] := by
  refine ⟨fun h => ?_, ?_, ?_⟩
  · exact display_alone h.lines _ s
  · rintro earlier s' seconds' rfl
    have hpos : (s'.block (timeOfDay seconds')).toList.count '\n' ≠ 0 := by
      rw [s'.count_block]
      exact Nat.succ_ne_zero _
    have hlines := lines_behind earlier (display s' seconds')
    rw [height] at hlines
    refine ⟨?_, ?_, fun rows hrows => ?_⟩
    · rw [display_erasing (by rw [hlines]; exact hpos), hlines]
    · exact Nat.mod_eq_iff_lt (by decide)
    · rw [screen_display hrows, hlines, Terminal.rise, if_neg hpos]
  · rintro earlier since rfl hearlier hsince hheight
    obtain ⟨rows, hrows⟩ := exists_screen earlier
    exact ⟨rows, hrows, screen_latest hrows hearlier hsince hheight⟩

/-- A failure with a detail takes two lines. -/
example : ((behind [display (.failure "a" "b") 0]).1.display "00:00:01" (.success "x")).1 =
    "\x1b[2A\x1b[J\x1b[2m[00:00:01]\x1b[0m \x1b[32m✓\x1b[39m x\n" := by
  decide +kernel

/-- A status of line breaks. -/
def blankStatus (breaks : Nat) : Status := .success (String.ofList (List.replicate breaks '\n'))

theorem height_blankStatus (breaks seconds : Nat) :
    (display (blankStatus breaks) seconds).height = breaks + 1 := by
  have hmessage : (blankStatus breaks).message.toList = List.replicate breaks '\n' :=
    String.toList_ofList
  have hbreak : decide ('\n' = '\n') = true := decide_eq_true rfl
  rw [height, Status.count_block, Status.lines, hmessage, List.filter_replicate, if_pos hbreak,
    List.length_replicate]

/-- Behind a status of 65537 lines the terminal goes up by one line only, and goes on to show the
others. -/
theorem tall_status_stays :
    (display (blankStatus 65536) 0).height = 65537 ∧
      ((behind [display (blankStatus 65536) 0]).1.display (timeOfDay 0) (.success "x")).1 =
        "\x1b[1A\x1b[J" ++ (Status.success "x").block (timeOfDay 0) ∧
      (behind [display (blankStatus 65536) 0, display (.success "x") 0]).2 ≠
        .standing (linesOf ((Status.success "x").block (timeOfDay 0))) [] := by
  have hheight := height_blankStatus 65536 0
  have hlines : (behind [display (blankStatus 65536) 0]).1.lines = 65537 :=
    (lines_behind [] (display (blankStatus 65536) 0)).trans hheight
  refine ⟨hheight, ?_, fun h => ?_⟩
  · rw [display_erasing (by rw [hlines]; decide), hlines]
    rfl
  · have hrows : (linesOf ((blankStatus 65536).block (timeOfDay 0))).length = 65537 :=
      (length_latestLines [] (display (blankStatus 65536) 0)).trans hheight
    have htall := screen_display screen_nil (blankStatus 65536) 0
    rw [List.take_nil, List.nil_append] at htall
    have hrow := congrArg Terminal.row ((screen_display htall (.success "x") 0).symm.trans h)
    -- all lines but one are left above the new one
    have hrise : Terminal.rise 65537 = 1 := by decide
    simp only [Terminal.standing, List.length_append, List.length_take, hlines, hrise,
      hrows] at hrow
    omega

end StatusCall

end Playground.Session
