import Mathlib.Data.List.Rotate
import Zet.Lib.Loop
import Zet.Terminal.Lines

/-!
# What scrolling a region does

`ScrollRegionUp` rotates the lines of the region, `ScrollRegionDown` copies them from the bottom up;
both then clear the rows they leave behind. Their loops count in sixteen bits: here they are loops
that may not end, which end for every region of a screen, and leave each row with the line `n` rows
away or a blank one.
-/

namespace Zet.Terminal
open Zet.Lib

namespace Grid

variable {top bot n row : Nat} {lines : List Line}

/-- A cleared row is blank, and every other as it was. -/
lemma getElem?_clearRows (first stop : Nat) (blank : Line) (lines : List Line) (row : Nat) :
    (clearRows first stop blank lines)[row]? =
      if first ≤ row ∧ row < stop ∧ row < lines.length then some blank else lines[row]? := by
  rw [clearRows, List.getElem?_mapIdx]
  rcases Nat.lt_or_ge row lines.length with hin | hout
  · rw [List.getElem?_eq_getElem hin, Option.map_some]
    by_cases hcleared : first ≤ row ∧ row < stop
    · rw [if_pos hcleared, if_pos ⟨hcleared.1, hcleared.2, hin⟩]
    · rw [if_neg hcleared, if_neg fun h => hcleared ⟨h.1, h.2.1⟩]
  · rw [List.getElem?_eq_none hout, if_neg (by omega)]
    rfl

/-- The rotation, row by row. -/
lemma getElem?_rotateRegion (htop : top ≤ bot) (hbot : bot < lines.length)
    (hn : n ≤ bot + 1 - top) (row : Nat) :
    (rotateRegion top bot n lines)[row]? =
      if top ≤ row ∧ row ≤ bot then
        if row + n ≤ bot then lines[row + n]? else lines[row + n - (bot + 1 - top)]?
      else lines[row]? := by
  have hregion : ((lines.drop top).take (bot + 1 - top)).length = bot + 1 - top := by
    rw [List.length_take, List.length_drop]
    omega
  have htake : (lines.take top).length = top := by
    rw [List.length_take]
    omega
  rw [rotateRegion, List.append_assoc, List.getElem?_append, htake]
  by_cases habove : row < top
  · rw [if_pos habove, if_neg (by omega), List.getElem?_take_of_lt habove]
  rw [if_neg habove, List.getElem?_append, List.length_rotate, hregion]
  by_cases hbelow : row - top < bot + 1 - top
  · have hmod : (row - top + n) % (bot + 1 - top) =
        if row + n ≤ bot then row - top + n else row - top + n - (bot + 1 - top) := by
      split
      · exact Nat.mod_eq_of_lt (by omega)
      · rw [Nat.mod_eq_sub_mod (by omega)]
        rcases Nat.lt_or_ge (row - top + n - (bot + 1 - top)) (bot + 1 - top) with hlt | hge
        · exact Nat.mod_eq_of_lt hlt
        · omega
    rw [if_pos hbelow, if_pos (by omega), List.getElem?_rotate (by rw [hregion]; exact hbelow),
      hregion, hmod]
    split
    · rw [List.getElem?_take_of_lt (by omega), List.getElem?_drop]
      congr 1
      omega
    · rw [List.getElem?_take_of_lt (by omega), List.getElem?_drop]
      congr 1
      omega
  · rw [if_neg hbelow, if_neg (by omega), List.getElem?_drop]
    congr 1
    omega

/-- The copy, row by row: no row is read after it is written. -/
lemma getElem?_copyRowsDown {stop : Nat} (hn : 0 < n) (hstop : n ≤ stop) {r : Nat}
    (hr : r < lines.length) (row : Nat) :
    (copyRowsDown n stop r lines)[row]? =
      if stop ≤ row ∧ row ≤ r then lines[row - n]? else lines[row]? := by
  induction r generalizing lines with
  | zero =>
    rw [if_neg (by omega)]
    rfl
  | succ r ih =>
    rw [copyRowsDown]
    split
    · next hcopied =>
      have hsource : r + 1 - n < lines.length := by omega
      rw [ih (by rw [List.length_set]; omega), List.getD_eq_getElem _ _ hsource]
      by_cases hlast : row = r + 1
      · subst hlast
        rw [if_neg (by omega), if_pos ⟨hcopied, Nat.le_refl _⟩, List.getElem?_set_self hr,
          List.getElem?_eq_getElem hsource]
      · rw [List.getElem?_set_ne (Ne.symm hlast)]
        by_cases habove : stop ≤ row ∧ row ≤ r
        · rw [if_pos habove, if_pos (by omega), List.getElem?_set_ne (by omega)]
        · rw [if_neg habove, if_neg (by omega)]
    · next hdone => rw [if_neg (by omega)]

/-- The lines with the region moved up by `n`, blanks behind it, and every other row as it was. -/
def MovedUp (top bot n : Nat) (blank : Line) (lines lines' : List Line) : Prop :=
  ∀ row, lines'[row]? =
    if top ≤ row ∧ row ≤ bot then if row + n ≤ bot then lines[row + n]? else some blank
    else lines[row]?

/-- The lines with the region moved down by `n`, blanks in front of it, and every other row as it
was. -/
def MovedDown (top bot n : Nat) (blank : Line) (lines lines' : List Line) : Prop :=
  ∀ row, lines'[row]? =
    if top ≤ row ∧ row ≤ bot then if top + n ≤ row then lines[row - n]? else some blank
    else lines[row]?

/-- Rotating the region and clearing its end moves it up. -/
lemma movedUp_rotate (htop : top ≤ bot) (hbot : bot < lines.length) (n : Nat) (blank : Line) :
    MovedUp top bot n blank lines
      (clearRows (bot + 1 - min n (bot + 1 - top)) (bot + 1) blank
        (rotateRegion top bot (min n (bot + 1 - top)) lines)) := by
  intro row
  rw [getElem?_clearRows, Stored.length_rotateRegion htop hbot,
    getElem?_rotateRegion htop hbot (Nat.min_le_right ..)]
  by_cases hregion : top ≤ row ∧ row ≤ bot
  · by_cases hkept : row + n ≤ bot
    · have hmin : min n (bot + 1 - top) = n := by omega
      rw [hmin, if_neg (by omega), if_pos hregion, if_pos hkept, if_pos hregion, if_pos hkept]
    · rw [if_pos (by omega), if_pos hregion, if_neg hkept]
  · rw [if_neg (by omega), if_neg hregion, if_neg hregion]

/-- Copying the rows down and clearing the first moves it down. -/
lemma movedDown_copy (htop : top ≤ bot) (hbot : bot < lines.length) (hn : 0 < n) (blank : Line) :
    MovedDown top bot n blank lines
      (clearRows top (top + min n (bot + 1 - top)) blank
        (copyRowsDown (min n (bot + 1 - top)) (top + min n (bot + 1 - top)) bot lines)) := by
  intro row
  rw [getElem?_clearRows, Stored.length_copyRowsDown,
    getElem?_copyRowsDown (by omega) (by omega) hbot]
  by_cases hregion : top ≤ row ∧ row ≤ bot
  · by_cases hkept : top + n ≤ row
    · have hmin : min n (bot + 1 - top) = n := by omega
      rw [hmin, if_neg (by omega), if_pos ⟨hkept, hregion.2⟩, if_pos hregion, if_pos hkept]
    · rw [if_pos (by omega), if_pos hregion, if_neg hkept]
  · rw [if_neg (by omega), if_neg (by omega), if_neg hregion]

/-- `ScrollRegionUp`, with its loops over a sixteen-bit row. -/
def scrollRegionUpLoops (fuel : Nat) (g : Grid) (n : Nat) (push : Bool) : Option Grid :=
  if n = 0 then some g
  else
    let regionHeight := u16 (g.scrollBot - g.scrollTop + 1)
    let n := if n > regionHeight then regionHeight else n
    let pushed :=
      if push ∧ g.scrollTop = 0 ∧ ¬g.isAltScreen then
        loop (fun s => s.1 < n) (fun s => (u16 (s.1 + 1), s.2.pushScrollback s.1)) fuel (0, g)
      else some (0, g)
    pushed.bind fun (_, g) =>
      let cleared := loop (fun s => s.1 ≤ g.scrollBot) (fun s => (u16 (s.1 + 1), s.2.set s.1 g.blankLine))
        fuel (u16 (g.scrollBot - n + 1), rotateRegion g.scrollTop g.scrollBot n g.activeLines)
      cleared.map fun (_, lines) => g.setActiveLines lines

/-- `ScrollRegionDown`, with its loops over a sixteen-bit row. -/
def scrollRegionDownLoops (fuel : Nat) (g : Grid) (n : Nat) : Option Grid :=
  if n = 0 then some g
  else
    let regionHeight := u16 (g.scrollBot - g.scrollTop + 1)
    let n := if n > regionHeight then regionHeight else n
    let copied := loop (fun s => s.1 ≥ g.scrollTop + n)
      (fun s => (u16 (s.1 - 1), s.2.set s.1 (s.2.getD (u16 (s.1 - n)) []))) fuel
      (g.scrollBot, g.activeLines)
    copied.bind fun (_, lines) =>
      let cleared := loop (fun s => s.1 < g.scrollTop + n)
        (fun s => (u16 (s.1 + 1), s.2.set s.1 g.blankLine)) fuel (g.scrollTop, lines)
      cleared.map fun (_, lines) => g.setActiveLines lines

/-- Clearing no row changes nothing. -/
lemma clearRows_self (first : Nat) (blank : Line) (lines : List Line) :
    clearRows first first blank lines = lines := by
  refine List.ext_getElem? fun row => ?_
  rw [getElem?_clearRows, if_neg (by omega)]

/-- The next row is cleared after the ones before. -/
lemma set_clearRows {first stop : Nat} (h : first ≤ stop) (blank : Line) (lines : List Line) :
    (clearRows first stop blank lines).set stop blank = clearRows first (stop + 1) blank lines := by
  refine List.ext_getElem? fun row => ?_
  rw [getElem?_clearRows, List.getElem?_set, Stored.length_clearRows, getElem?_clearRows]
  by_cases hhere : stop = row
  · subst hhere
    rcases Nat.lt_or_ge stop lines.length with hin | hout
    · rw [if_pos rfl, if_pos hin, if_pos (by omega)]
    · rw [if_pos rfl, if_neg (by omega), if_neg (by omega), List.getElem?_eq_none hout]
  · rw [if_neg hhere]
    refine if_congr ?_ rfl rfl
    omega

/-- Rows cleared one after the other. -/
lemma loop_clearRows {guard : Nat × List Line → Bool} {first stop fuel : Nat} (blank : Line)
    (lines : List Line) (hstop : first ≤ stop) (hbits : stop < 65536)
    (hguard : ∀ row rest, guard (row, rest) = decide (row < stop)) (enough : stop - first < fuel) :
    loop guard (fun s => (u16 (s.1 + 1), s.2.set s.1 blank)) fuel (first, lines) =
      some (stop, clearRows first stop blank lines) := by
  have hcounted := @loop_counted _ guard
    (fun s => (u16 (s.1 + 1), s.2.set s.1 blank)) (stop - first) fuel
    (fun i => (first + i, clearRows first (first + i) blank lines))
    (fun i hi => by rw [hguard]; exact decide_eq_true (by omega)) (fun i hi => ?_)
    (by rw [hguard]; exact decide_eq_false (by omega)) enough
  · rw [Nat.add_zero, clearRows_self, Nat.add_sub_cancel' hstop] at hcounted
    exact hcounted
  · dsimp only
    rw [set_clearRows (Nat.le_add_right ..), ← Nat.add_assoc]
    congr 1
    unfold u16
    omega

/-- Rows pushed one after the other. -/
lemma loop_pushScrollback {n fuel : Nat} (g : Grid) (hbits : n < 65536) (enough : n < fuel) :
    loop (fun s => decide (s.1 < n)) (fun s => (u16 (s.1 + 1), s.2.pushScrollback s.1)) fuel (0, g) =
      some (n, (List.range n).foldl pushScrollback g) := by
  refine loop_counted (fun i => (i, (List.range i).foldl pushScrollback g))
    (fun i hi => decide_eq_true hi) (fun i hi => ?_) (decide_eq_false (Nat.lt_irrefl n)) enough
  dsimp only
  rw [List.range_succ, List.foldl_append]
  congr 1
  unfold u16
  omega

/-- Rows copied from the bottom up. -/
lemma loop_copyRowsDown {n stop : Nat} (hn : 0 < n) (hstop : n ≤ stop) {r fuel : Nat}
    (hbits : r < 65536) (enough : r < fuel) (lines : List Line) :
    ∃ row, loop (fun s => decide (s.1 ≥ stop))
      (fun s => (u16 (s.1 - 1), s.2.set s.1 (s.2.getD (u16 (s.1 - n)) []))) fuel (r, lines) =
        some (row, copyRowsDown n stop r lines) := by
  obtain ⟨fuel, rfl⟩ := Nat.exists_eq_add_of_le' (Nat.one_le_of_lt enough)
  induction r generalizing lines fuel with
  | zero => exact ⟨0, loop_exit _ (decide_eq_false (by omega))⟩
  | succ r ih =>
    rw [copyRowsDown]
    split
    · next hcopied =>
      obtain ⟨fuel, rfl⟩ := Nat.exists_eq_add_of_le' (show 1 ≤ fuel by omega)
      have hnext : u16 (((r + 1 : Nat) : Int) - 1) = r := by
        unfold u16
        omega
      have hsource : u16 (((r + 1 : Nat) : Int) - n) = r + 1 - n := by
        unfold u16
        omega
      obtain ⟨row, hrest⟩ := ih (by omega) (lines.set (r + 1) (lines.getD (r + 1 - n) [])) fuel
        (by omega)
      refine ⟨row, ?_⟩
      rw [loop_turn _ (by exact decide_eq_true hcopied)]
      dsimp only
      rw [hnext, hsource]
      exact hrest
    · next hdone => exact ⟨r + 1, loop_exit _ (decide_eq_false hdone)⟩

/-- A region of a screen. -/
structure Region (g : Grid) : Prop where
  top_le : g.scrollTop ≤ g.scrollBot
  bot_lt : g.scrollBot < g.rows
  rows_le : g.rows ≤ maxRows
  active : g.activeLines.length = g.rows

variable {g : Grid}

/-- The height of a region fits 16 bits. -/
lemma Region.height_eq (region : g.Region) :
    u16 (g.scrollBot - g.scrollTop + 1) = g.scrollBot + 1 - g.scrollTop := by
  have htop := region.top_le
  have hbot := region.bot_lt
  have hrows : g.rows ≤ 1024 := region.rows_le
  unfold u16
  omega

/-- The smaller of two numbers, as the code writes it. -/
lemma ite_gt_eq_min (n m : Nat) : (if n > m then m else n) = min n m := by
  split <;> omega

/-- The first row to be cleared fits 16 bits. -/
lemma Region.clear_from (region : g.Region) (hn : n ≤ g.scrollBot + 1 - g.scrollTop) :
    u16 (g.scrollBot - n + 1) = g.scrollBot + 1 - n := by
  have hbot := region.bot_lt
  have hrows : g.rows ≤ 1024 := region.rows_le
  unfold u16
  omega

/-- Pushing rows into the history leaves margins, blank and screen alone. -/
lemma region_pushRegion (n : Nat) (push : Bool) :
    (g.pushRegion n push).scrollTop = g.scrollTop ∧ (g.pushRegion n push).scrollBot = g.scrollBot ∧
      (g.pushRegion n push).blankLine = g.blankLine ∧
      (g.pushRegion n push).activeLines = g.activeLines := by
  unfold pushRegion
  split
  · obtain ⟨ring, start, size, heq⟩ := pushRows_eq (g := g) (List.range n)
    rw [heq]
    exact ⟨rfl, rfl, rfl, rfl⟩
  · exact ⟨rfl, rfl, rfl, rfl⟩

/-- The loops of `ScrollRegionUp` end, with what `scrollRegionUp` says. -/
theorem Region.scrollRegionUpLoops_eq (region : g.Region) {fuel : Nat} (enough : maxRows < fuel)
    (n : Nat) (push : Bool) : g.scrollRegionUpLoops fuel n push = some (g.scrollRegionUp n push) := by
  have hbot := region.bot_lt
  have hrows : g.rows ≤ 1024 := region.rows_le
  have hfuel : 1024 < fuel := enough
  unfold scrollRegionUpLoops scrollRegionUp
  split
  · rfl
  dsimp only
  rw [region.height_eq, ite_gt_eq_min]
  have hmin := Nat.min_le_right n (g.scrollBot + 1 - g.scrollTop)
  generalize min n (g.scrollBot + 1 - g.scrollTop) = m at hmin ⊢
  have hpushed : (if push ∧ g.scrollTop = 0 ∧ ¬g.isAltScreen then
      loop (fun s => decide (s.1 < m)) (fun s => (u16 (s.1 + 1), s.2.pushScrollback s.1)) fuel (0, g)
      else some (0, g)).map Prod.snd = some (g.pushRegion m push) := by
    unfold pushRegion
    split
    · rw [loop_pushScrollback g (by omega) (by omega)]
      rfl
    · rfl
  obtain ⟨⟨i, g'⟩, hsome, hpush⟩ := Option.map_eq_some_iff.mp hpushed
  obtain ⟨htop', hbot', hblank, hactive⟩ := region_pushRegion (g := g) m push
  rw [← hpush] at htop' hbot' hblank hactive ⊢
  rw [hsome, Option.bind_some]
  dsimp only
  dsimp only at htop' hbot' hblank hactive
  have hclear := @loop_clearRows (fun s => decide (s.1 ≤ g.scrollBot)) _ _
    fuel g.blankLine (rotateRegion g.scrollTop g.scrollBot m g.activeLines)
    (show g.scrollBot + 1 - m ≤ g.scrollBot + 1 by omega) (by omega)
    (fun row rest => decide_eq_decide.mpr (Nat.lt_succ_iff.symm)) (by omega)
  rw [htop', hbot', hblank, hactive, region.clear_from hmin, hclear, Option.map_some]
  unfold shiftUp
  rw [htop', hbot', hblank, hactive]

/-- The loops of `ScrollRegionDown` end, with what `scrollRegionDown` says. -/
theorem Region.scrollRegionDownLoops_eq (region : g.Region) {fuel : Nat} (enough : maxRows < fuel)
    (n : Nat) : g.scrollRegionDownLoops fuel n = some (g.scrollRegionDown n) := by
  have htop := region.top_le
  have hbot := region.bot_lt
  have hrows : g.rows ≤ 1024 := region.rows_le
  have hfuel : 1024 < fuel := enough
  unfold scrollRegionDownLoops scrollRegionDown
  split
  · rfl
  next hn =>
  dsimp only
  rw [region.height_eq, ite_gt_eq_min]
  have hmin : min n (g.scrollBot + 1 - g.scrollTop) ≤ g.scrollBot + 1 - g.scrollTop :=
    Nat.min_le_right ..
  have hpos : 0 < min n (g.scrollBot + 1 - g.scrollTop) := by omega
  generalize min n (g.scrollBot + 1 - g.scrollTop) = m at hmin hpos ⊢
  obtain ⟨row, hcopy⟩ := @loop_copyRowsDown m (g.scrollTop + m) hpos
    (Nat.le_add_left ..) _ _ (show g.scrollBot < 65536 by omega) (show g.scrollBot < fuel by omega)
    g.activeLines
  have hclear := @loop_clearRows (fun s => decide (s.1 < g.scrollTop + m)) _ _
    fuel g.blankLine (copyRowsDown m (g.scrollTop + m) g.scrollBot g.activeLines)
    (show g.scrollTop ≤ g.scrollTop + m by omega) (by omega) (fun row rest => rfl) (by omega)
  rw [hcopy, Option.bind_some]
  dsimp only
  rw [hclear, Option.map_some]

/-- Putting the lines that are there changes nothing. -/
@[simp] lemma setActiveLines_self (g : Grid) : g.setActiveLines g.activeLines = g := by
  unfold setActiveLines activeLines
  split <;> rfl

/-- Nothing moves up by no row. -/
lemma movedUp_zero (top bot : Nat) (blank : Line) (lines : List Line) :
    MovedUp top bot 0 blank lines lines := by
  intro row
  split
  · next h => rw [if_pos (by omega), Nat.add_zero]
  · rfl

/-- Nothing moves down by no row. -/
lemma movedDown_zero (top bot : Nat) (blank : Line) (lines : List Line) :
    MovedDown top bot 0 blank lines lines := by
  intro row
  split
  · next h => rw [if_pos (by omega), Nat.sub_zero]
  · rfl

/-- What an up-scroll does: the region of the active screen moves, the history is as the pushes leave
it, and nothing else changes. -/
theorem Region.scrollRegionUp (region : g.Region) (n : Nat) (push : Bool) :
    ∃ lines, g.scrollRegionUp n push =
        (g.pushRegion (min n (g.scrollBot + 1 - g.scrollTop)) push).setActiveLines lines ∧
      MovedUp g.scrollTop g.scrollBot n g.blankLine g.activeLines lines := by
  have hbot : g.scrollBot < g.activeLines.length := region.active ▸ region.bot_lt
  unfold Grid.scrollRegionUp
  split
  · next hzero =>
    subst hzero
    refine ⟨g.activeLines, ?_, movedUp_zero _ _ _ _⟩
    have hnone : g.pushRegion (min 0 (g.scrollBot + 1 - g.scrollTop)) push = g := by
      rw [Nat.zero_min]
      unfold pushRegion
      split <;> rfl
    rw [hnone, setActiveLines_self]
  · refine ⟨_, ?_, movedUp_rotate region.top_le hbot n g.blankLine⟩
    obtain ⟨htop', hbot', hblank, hactive⟩ :=
      region_pushRegion (g := g) (min n (g.scrollBot + 1 - g.scrollTop)) push
    dsimp only
    unfold shiftUp
    rw [htop', hbot', hblank, hactive]

/-- What a down-scroll does: the region of the active screen moves, and nothing else changes. -/
theorem Region.scrollRegionDown (region : g.Region) (n : Nat) :
    ∃ lines, g.scrollRegionDown n = g.setActiveLines lines ∧
      MovedDown g.scrollTop g.scrollBot n g.blankLine g.activeLines lines := by
  have hbot : g.scrollBot < g.activeLines.length := region.active ▸ region.bot_lt
  unfold Grid.scrollRegionDown
  split
  · next hzero =>
    subst hzero
    exact ⟨g.activeLines, (setActiveLines_self g).symm, movedDown_zero _ _ _ _⟩
  · next hpos =>
    exact ⟨_, rfl, movedDown_copy region.top_le hbot (Nat.pos_of_ne_zero hpos) g.blankLine⟩

end Grid

end Zet.Terminal
