import Zet.Lib.Switching
import Zet.Terminal.Snapshot

/-!
# The size of a snapshot

How long the encoding of a grid is, and that each rung of the ladder makes it no longer: fewer history
lines, fewer colours, fewer rows. Every cell needs its pen, and `EmitSgr` is the switch between two
(`switchCosts`), so leaving out what is in front of a cell costs at most what writing it would have
cost. A row that loses the row above it is placed by an absolute position and not by a line break; the
position of the row left out pays for that (`length_rowStart_le`).
-/

namespace Zet.Terminal.Snapshot
open Zet.Core Zet.Lib Zet.Lib.Switching

/-- What it takes to switch from one pen to another under a colour mode. -/
def switchCost (mode : ColorMode) (p q : Pen) : Nat :=
  (emitSgr (normalizeCell mode p) (normalizeCell mode q)).length

/-- No sequence is written for the pen that is set already. -/
lemma emitSgr_same (p : Pen) : emitSgr p p = [] := if_pos rfl

/-- What is emitted does not depend on the pen that is left. -/
lemma emitSgr_ne {p q r : Pen} (hp : p ≠ r) (hq : q ≠ r) : emitSgr p r = emitSgr q r := by
  rw [emitSgr, emitSgr, if_neg hp, if_neg hq]

/-- What a pen costs is the cost of a switch. -/
lemma switchCosts (mode : ColorMode) : SwitchCosts (switchCost mode) where
  same s := by rw [switchCost, emitSgr_same]; rfl
  detour s t u := by
    unfold switchCost
    generalize normalizeCell mode s = p
    generalize normalizeCell mode t = q
    generalize normalizeCell mode u = r
    by_cases hpq : p = q
    · rw [hpq]
      exact Nat.le_add_left ..
    by_cases hqr : q = r
    · rw [hqr]
      exact Nat.le_add_right ..
    by_cases hpr : p = r
    · rw [hpr, emitSgr_same]
      exact Nat.zero_le _
    · rw [emitSgr_ne hpr hqr]
      exact Nat.le_add_left ..

/-- The default pen is normal in every colour mode. -/
lemma normalizeCell_default (mode : ColorMode) : normalizeCell mode {} = {} := by
  cases mode <;> rfl

/-- The cells of a line as pieces of text. -/
def cellItems : List Cell → (skip : Bool) → List (Item Pen)
  | [], _ => []
  | _ :: cells, true => cellItems cells false
  | c :: cells, false =>
    if c.width = 0 then cellItems cells false
    else ⟨some c.pen, (writeUtf8 (shownCp c)).length⟩ :: cellItems cells (2 ≤ c.width)

/-- The cells that are written of a line. -/
def lineItems (line : Line) : List (Item Pen) := cellItems (line.take (usedCells line)) false

/-- `encodeCells` writes the pieces, and leaves the pen they leave. -/
lemma encodeCells_items (mode : ColorMode) (cells : List Cell) (skip : Bool) (p : Pen) :
    (encodeCells mode cells skip (normalizeCell mode p)).1.length =
        cost (switchCost mode) p (cellItems cells skip) ∧
      (encodeCells mode cells skip (normalizeCell mode p)).2 =
        normalizeCell mode (after p (cellItems cells skip)) := by
  induction cells generalizing skip p with
  | nil => exact ⟨rfl, rfl⟩
  | cons c cells ih =>
    cases skip with
    | true => exact ih false p
    | false =>
      rw [encodeCells, cellItems]
      split
      · exact ih false p
      · obtain ⟨hlength, hpen⟩ := ih (2 ≤ c.width) c.pen
        refine ⟨?_, hpen⟩
        simp only [List.length_append, hlength]
        rfl

/-- The pieces of a line decide the pen it leaves, unless there are none. -/
lemma after_cellItems (cells : List Cell) (skip : Bool) :
    cellItems cells skip = [] ∨ ∀ p q, after p (cellItems cells skip) = after q (cellItems cells skip) := by
  induction cells generalizing skip with
  | nil => exact .inl rfl
  | cons c cells ih =>
    cases skip with
    | true => exact ih false
    | false =>
      rw [cellItems]
      split
      · exact ih false
      · exact .inr fun p q => after_eq rfl p q _

/-- The rows of a screen as pieces of text, from row number `row` on. -/
def rowItems : List Line → (row : Nat) → (lastRow : Option Nat) → List (Item Pen)
  | [], _, _ => []
  | line :: lines, row, lastRow =>
    if usedCells line = 0 then rowItems lines (row + 1) lastRow
    else ⟨none, (rowStart lastRow row).length⟩ :: (lineItems line ++ rowItems lines (row + 1) (some row))

/-- The rows take what their items cost. -/
lemma encodeRows_items (mode : ColorMode) (lines : List Line) (row : Nat) (lastRow : Option Nat) (p : Pen) :
    (encodeRows mode lines row lastRow (normalizeCell mode p)).1.length =
      cost (switchCost mode) p (rowItems lines row lastRow) := by
  induction lines generalizing row lastRow p with
  | nil => rfl
  | cons line lines ih =>
    rw [encodeRows, rowItems]
    split
    · exact ih (row + 1) lastRow p
    · obtain ⟨hlength, hpen⟩ := encodeCells_items mode (line.take (usedCells line)) false p
      have hsame := (switchCosts mode).same p
      simp only [List.length_append, hlength, hpen, ih, cost, cost_append, Option.getD_none, hsame,
        lineItems]
      omega

/-- How many digits the loop of `WriteDecimal` writes. -/
def digits : (fuel n : Nat) → Nat
  | 0, _ => 0
  | fuel + 1, n => if n > 0 then digits fuel (n / 10) + 1 else 0

/-- The loop writes as many digits as the number has. -/
lemma decimalLoop_digits (fuel n : Nat) (tail : Bytes) :
    (decimalLoop fuel n tail).length = digits fuel n + tail.length := by
  induction fuel generalizing n tail with
  | zero => exact (Nat.zero_add _).symm
  | succ fuel ih =>
    rw [decimalLoop, digits]
    split
    · rw [ih, List.length_cons]
      omega
    · exact (Nat.zero_add _).symm

/-- A number takes as many bytes as it has digits. -/
lemma writeDecimal_digits (n : Nat) :
    (writeDecimal n).length = if n = 0 then 1 else digits 10 n := by
  unfold writeDecimal
  split
  · rfl
  · rw [decimalLoop_digits]
    rfl

/-- The next number has one digit more at most. -/
lemma digits_succ (fuel n : Nat) : digits fuel (n + 1) ≤ digits fuel n + 1 := by
  induction fuel generalizing n with
  | zero => exact Nat.zero_le _
  | succ fuel ih =>
    rw [digits, digits, if_pos (Nat.succ_pos n)]
    split
    · next hpos =>
      rcases (by omega : (n + 1) / 10 = n / 10 ∨ (n + 1) / 10 = n / 10 + 1) with hsame | hnext
      · rw [hsame]
        omega
      · rw [hnext]
        exact Nat.succ_le_succ (ih (n / 10))
    · next hzero =>
      obtain rfl : n = 0 := by omega
      cases fuel <;> simp [digits]

/-- The position of a row takes one character more than that of the row above, at most. -/
lemma length_rowStart_succ (row : Nat) :
    (rowStart none (row + 1)).length ≤ (rowStart none row).length + 1 := by
  have hdigits := digits_succ 10 (row + 1)
  simp only [rowStart, Option.map_none, reduceCtorEq, if_false, List.length_append,
    writeDecimal_digits, Nat.add_eq_zero_iff, one_ne_zero, and_false]
  omega

/-- Rows below a row that was written start with a line break or as they would have anyway. -/
lemma rowItems_behind (lines : List Line) {row k : Nat} (hk : row < k) :
    rowItems lines k (some row) = rowItems lines k none ∨
      ∃ items, rowItems lines k (some row) = ⟨none, 2⟩ :: items ∧
        rowItems lines k none = ⟨none, (rowStart none (row + 1)).length⟩ :: items := by
  induction lines generalizing k with
  | nil => exact .inl rfl
  | cons line lines ih =>
    rw [rowItems, rowItems]
    split
    · exact ih (k := k + 1) (by omega)
    · rcases Nat.eq_or_lt_of_le hk with hnext | hlater
      · obtain rfl : k = row + 1 := hnext.symm
        have hbreak : (rowStart (some row) (row + 1)).length = 2 := by
          rw [rowStart, if_pos (show (some row).map (· + 1) = some (row + 1) from rfl)]
          rfl
        exact .inr ⟨_, by rw [hbreak], rfl⟩
      · refine .inl ?_
        rw [rowStart, rowStart, if_neg (by simp; omega), if_neg (by simp)]

/-- The first row left out makes a screen no longer. -/
lemma cost_rowItems_tail (mode : ColorMode) (line : Line) (lines : List Line) (row : Nat) :
    cost (switchCost mode) {} (rowItems lines (row + 1) none) ≤
      cost (switchCost mode) {} (rowItems (line :: lines) row none) := by
  rw [rowItems]
  split
  · exact Nat.le_refl _
  · have hcosts := switchCosts mode
    have hsame := hcosts.same
    have hsuffix := cost_suffix hcosts {} (lineItems line) (rowItems lines (row + 1) (some row))
    have hposition := length_rowStart_succ row
    rw [cost, Option.getD_none, hsame]
    dsimp only
    rcases rowItems_behind lines (Nat.lt_add_one row) with hsome | ⟨items, hsome, hnone⟩
    · rw [← hsome]
      omega
    · rw [hnone, cost, Option.getD_none, hsame]
      rw [hsome] at hsuffix ⊢
      rw [cost, Option.getD_none, hsame] at hsuffix
      dsimp only at hsuffix ⊢
      omega

/-- The rows of a screen from `firstRow` up to `endRow`, in bytes. -/
def screenSize (mode : ColorMode) (lines : List Line) (firstRow endRow : Nat) : Nat :=
  (encodeAnyScreen mode lines firstRow endRow {}).1.length

/-- A screen takes what the items of its rows cost. -/
lemma screenSize_eq (mode : ColorMode) (lines : List Line) (firstRow endRow : Nat) :
    screenSize mode lines firstRow endRow =
      cost (switchCost mode) {} (rowItems ((lines.take endRow).drop firstRow) firstRow none) := by
  have hitems := encodeRows_items mode ((lines.take endRow).drop firstRow) firstRow none {}
  rw [normalizeCell_default] at hitems
  exact hitems

/-- Rows left out at the top make a screen no longer. -/
theorem screenSize_top (mode : ColorMode) (lines : List Line) (endRow : Nat) {top top' : Nat}
    (h : top ≤ top') : screenSize mode lines top' endRow ≤ screenSize mode lines top endRow := by
  induction h with
  | refl => exact Nat.le_refl _
  | step _ ih =>
    refine Nat.le_trans ?_ ih
    next m _ =>
    rw [screenSize_eq, screenSize_eq]
    rcases Nat.lt_or_ge m (lines.take endRow).length with hin | hout
    · rw [List.drop_eq_getElem_cons hin]
      exact cost_rowItems_tail mode _ _ m
    · rw [List.drop_eq_nil_of_le hout, List.drop_eq_nil_of_le (by omega)]
      exact Nat.le_refl _

/-- Rows behind others make their pieces longer at the end only. -/
lemma rowItems_append (a b : List Line) (row : Nat) (lastRow : Option Nat) :
    ∃ items, rowItems (a ++ b) row lastRow = rowItems a row lastRow ++ items := by
  induction a generalizing row lastRow with
  | nil => exact ⟨_, rfl⟩
  | cons line a ih =>
    rw [List.cons_append, rowItems, rowItems]
    split
    · exact ih (row + 1) lastRow
    · obtain ⟨items, hitems⟩ := ih (row + 1) (some row)
      exact ⟨items, by rw [hitems, List.cons_append, List.append_assoc]⟩

/-- Rows left out at the bottom make a screen no longer. -/
theorem screenSize_bottom (mode : ColorMode) (lines : List Line) (firstRow : Nat) {stop stop' : Nat}
    (h : stop ≤ stop') : screenSize mode lines firstRow stop ≤ screenSize mode lines firstRow stop' := by
  have hsplit : (lines.take stop').drop firstRow = (lines.take stop).drop firstRow ++
      ((lines.take stop').drop stop).drop (firstRow - (lines.take stop).length) := by
    conv_lhs => rw [← List.take_append_drop stop (lines.take stop')]
    rw [List.take_take, Nat.min_eq_left h, List.drop_append]
  obtain ⟨items, hitems⟩ := rowItems_append ((lines.take stop).drop firstRow)
    (((lines.take stop').drop stop).drop (firstRow - (lines.take stop).length)) firstRow none
  rw [screenSize_eq, screenSize_eq, hsplit, hitems, cost_append]
  exact Nat.le_add_right ..

/-- A colour mode under which no switch takes more. -/
def Coarser (mode mode' : ColorMode) : Prop := ∀ p q, switchCost mode p q ≤ switchCost mode' p q

/-- What `EmitSgr` emits when it emits anything. -/
def sgrText (c : Pen) : Bytes :=
  asciiBytes "\x1b[" ++ firstParams c ++ asciiBytes "m" ++
    if c.bg.kind ≠ .default ∨ c.ulIdx ≠ 0 then asciiBytes "\x1b[" ++ secondParams c ++ asciiBytes "m"
    else []

/-- A mode that keeps equal pens equal and makes none longer to emit is coarser. -/
lemma Coarser.of_pens {mode mode' : ColorMode}
    (same : ∀ p q, normalizeCell mode' p = normalizeCell mode' q →
      normalizeCell mode p = normalizeCell mode q)
    (shorter : ∀ c, (sgrText (normalizeCell mode c)).length ≤ (sgrText (normalizeCell mode' c)).length) :
    Coarser mode mode' := by
  intro p q
  unfold switchCost
  by_cases hp : normalizeCell mode p = normalizeCell mode q
  · rw [hp, emitSgr_same]
    exact Nat.zero_le _
  · rw [emitSgr, emitSgr, if_neg hp, if_neg fun h => hp (same p q h)]
    exact shorter q

/-- Shorter colours make a pen shorter to emit. -/
lemma length_sgrText_le {c c' : Pen} (attrs : c.attrs = c'.attrs) (attrEx : c.attrEx = c'.attrEx)
    (ulIdx : c.ulIdx = c'.ulIdx)
    (fg : (foregroundText c.fg).length ≤ (foregroundText c'.fg).length)
    (bg : (backgroundText c.bg).length ≤ (backgroundText c'.bg).length)
    (kept : c.bg.kind ≠ .default → c'.bg.kind ≠ .default) :
    (sgrText c).length ≤ (sgrText c').length := by
  have hfirst : (firstParams c).length ≤ (firstParams c').length := by
    simp only [firstParams, List.length_append, underlineText, attrs, attrEx]
    omega
  have hsecond : (secondParams c).length ≤ (secondParams c').length := by
    simp only [secondParams, List.length_append, ulIdx]
    by_cases hkind : c.bg.kind ≠ .default
    · rw [if_pos hkind, if_pos (kept hkind)]
      omega
    · rw [if_neg hkind]
      split <;> simp <;> omega
  simp only [sgrText, List.length_append, ulIdx]
  split
  · next hneeded =>
    rw [if_pos (hneeded.imp_left kept)]
    simp only [List.length_append]
    omega
  · simp only [List.length_nil]
    omega

/-- A byte takes one to three digits. -/
lemma length_writeDecimal_byte : ∀ n, n < 256 →
    1 ≤ (writeDecimal n).length ∧ (writeDecimal n).length ≤ 3 := by
  decide +kernel

/-- Reducing a colour neither makes nor loses the default one. -/
lemma kind_reduceColor (color : Color) :
    (reduceColor color).kind = .default ↔ color.kind = .default := by
  unfold reduceColor
  split
  · next h => simp [Color.ofIndex, h]
  · exact Iff.rfl

/-- A palette index takes no more room than a true colour, in front of the text. -/
lemma length_foreground_reduceColor (color : Color) :
    (foregroundText (reduceColor color)).length ≤ (foregroundText color).length := by
  unfold reduceColor
  split
  · next h =>
    generalize trueColorTo256 color.c₀ color.c₁ color.c₂ = idx
    have hr := length_writeDecimal_byte color.c₀.toNat color.c₀.toNat_lt
    have hg := length_writeDecimal_byte color.c₁.toNat color.c₁.toNat_lt
    have hb := length_writeDecimal_byte color.c₂.toNat color.c₂.toNat_lt
    have htrue : 11 ≤ (foregroundText color).length := by
      simp only [foregroundText, h, List.length_append, show (asciiBytes ";38;2;").length = 6 from rfl,
        show (asciiBytes ";").length = 1 from rfl]
      omega
    refine Nat.le_trans ?_ htrue
    dsimp only [foregroundText, Color.ofIndex]
    split
    · have hi := length_writeDecimal_byte (30 + idx.toNat) (by omega)
      rw [List.length_append, show (asciiBytes ";").length = 1 from rfl]
      omega
    split
    · have hi := length_writeDecimal_byte (90 + (idx.toNat - 8)) (by omega)
      rw [List.length_append, show (asciiBytes ";").length = 1 from rfl]
      omega
    · have hi := length_writeDecimal_byte idx.toNat idx.toNat_lt
      rw [List.length_append, show (asciiBytes ";38;5;").length = 6 from rfl]
      omega
  · exact Nat.le_refl _

/-- And behind it. -/
lemma length_background_reduceColor (color : Color) :
    (backgroundText (reduceColor color)).length ≤ (backgroundText color).length := by
  unfold reduceColor
  split
  · next h =>
    generalize trueColorTo256 color.c₀ color.c₁ color.c₂ = idx
    have hr := length_writeDecimal_byte color.c₀.toNat color.c₀.toNat_lt
    have hg := length_writeDecimal_byte color.c₁.toNat color.c₁.toNat_lt
    have hb := length_writeDecimal_byte color.c₂.toNat color.c₂.toNat_lt
    have htrue : 10 ≤ (backgroundText color).length := by
      simp only [backgroundText, h, List.length_append, show (asciiBytes "48;2;").length = 5 from rfl,
        show (asciiBytes ";").length = 1 from rfl]
      omega
    refine Nat.le_trans ?_ htrue
    dsimp only [backgroundText, Color.ofIndex]
    split
    · have hi := length_writeDecimal_byte (40 + idx.toNat) (by omega)
      omega
    split
    · have hi := length_writeDecimal_byte (100 + (idx.toNat - 8)) (by omega)
      omega
    · have hi := length_writeDecimal_byte idx.toNat idx.toNat_lt
      rw [List.length_append, show (asciiBytes "48;5;").length = 5 from rfl]
      omega
  · exact Nat.le_refl _

/-- The 256 colours are coarser than all. -/
lemma coarser_indexed256 : Coarser .indexed256 .full := by
  refine .of_pens (fun p q h => congrArg (normalizeCell .indexed256) h) fun c => ?_
  refine length_sgrText_le rfl rfl rfl (length_foreground_reduceColor c.fg)
    (length_background_reduceColor c.bg) ?_
  exact fun h => mt (kind_reduceColor c.bg).mpr h

/-- No colours are coarser than 256. -/
lemma coarser_none : Coarser .none .indexed256 := by
  refine .of_pens ?_ fun c => ?_
  · intro p q h
    obtain ⟨pattrs, _, _, pex, pul⟩ := p
    obtain ⟨qattrs, _, _, qex, qul⟩ := q
    simp only [normalizeCell, Pen.mk.injEq] at h ⊢
    exact ⟨h.1, trivial, trivial, h.2.2.2⟩
  · exact length_sgrText_le rfl rfl rfl (Nat.zero_le _) (Nat.zero_le _) fun h => absurd rfl h

section
variable {mode mode' : ColorMode} (coarser : Coarser mode mode')
include coarser

/-- In coarser colours the screen takes no more. -/
lemma screenSize_coarser (lines : List Line) (firstRow endRow : Nat) :
    screenSize mode lines firstRow endRow ≤ screenSize mode' lines firstRow endRow := by
  rw [screenSize_eq, screenSize_eq]
  exact cost_mono coarser _ _

/-- A pen from the default one. -/
lemma length_emitSgr_coarser (c : Pen) :
    (emitSgr {} (normalizeCell mode c)).length ≤ (emitSgr {} (normalizeCell mode' c)).length := by
  have h := coarser {} c
  unfold switchCost at h
  rwa [normalizeCell_default, normalizeCell_default] at h

/-- A saved cursor takes no more. -/
lemma length_encodeSlot_coarser (g : Grid) (sc : SavedCursor) (save : Bytes) :
    (encodeSlot g mode sc save).length ≤ (encodeSlot g mode' sc save).length := by
  have h := length_emitSgr_coarser coarser sc.pen
  simp only [encodeSlot, List.length_append]
  omega

/-- The cell under a pending wrap takes no more. -/
lemma length_encodePendingWrap_coarser (g : Grid) :
    (encodePendingWrap g mode (normalizeCell mode g.pen)).length ≤
      (encodePendingWrap g mode' (normalizeCell mode' g.pen)).length := by
  have hto := coarser g.pen (g.cellAt g.cursorRow (emitCol g)).pen
  have hback := coarser (g.cellAt g.cursorRow (emitCol g)).pen g.pen
  unfold switchCost at hto hback
  unfold encodePendingWrap
  split
  · simp only [List.length_append]
    omega
  · exact Nat.le_refl _

/-- The modes and what comes with them take no more. -/
lemma length_encodeModeRestore_coarser (g : Grid) :
    (encodeModeRestore g mode).length ≤ (encodeModeRestore g mode').length := by
  have hslot := length_encodeSlot_coarser coarser g g.activeSaved (asciiBytes "\x1b7")
  have hpen := length_emitSgr_coarser coarser g.pen
  have hwrap := length_encodePendingWrap_coarser coarser g
  simp only [encodeModeRestore, List.length_append]
  omega

end

/-- The size of history lines from a pen. -/
def historyCost (mode : ColorMode) (lines : List Line) (p : Pen) : Nat :=
  (encodeHistory mode lines (normalizeCell mode p)).1.length

/-- The pen a history line leaves behind: one that needs a reset is reset. -/
def settle (mode : ColorMode) (p : Pen) : Pen := if isStyled (normalizeCell mode p) then {} else p

/-- What the reset takes. -/
def resetSize (mode : ColorMode) (p : Pen) : Nat := if isStyled (normalizeCell mode p) then 4 else 0

/-- A history costs its first line, its reset and its end, and the rest from the pen they leave. -/
lemma historyCost_cons (mode : ColorMode) (line : Line) (lines : List Line) (p : Pen) :
    historyCost mode (line :: lines) p =
      cost (switchCost mode) p (lineItems line) + resetSize mode (after p (lineItems line)) + 2 +
        historyCost mode lines (settle mode (after p (lineItems line))) := by
  obtain ⟨hlength, hpen⟩ := encodeCells_items mode (line.take (usedCells line)) false p
  have hreset : (asciiBytes "\x1b[0m").length = 4 := rfl
  have hbreak : (asciiBytes "\r\n").length = 2 := rfl
  unfold historyCost
  rw [encodeHistory, encodeHistoryLine, List.length_append, hpen]
  unfold settle resetSize lineItems
  split
  · rw [normalizeCell_default]
    simp only [List.length_append, hlength, hreset, hbreak]
  · simp only [List.length_append, hlength, hbreak]

/-- Between two lines the pen makes no more difference than switching to it. -/
lemma historyCost_le (mode : ColorMode) (lines : List Line) {p q : Pen}
    (hp : isStyled (normalizeCell mode p) = false) (hq : isStyled (normalizeCell mode q) = false) :
    historyCost mode lines p ≤ switchCost mode p q + historyCost mode lines q := by
  induction lines with
  | nil => exact Nat.zero_le _
  | cons line lines ih =>
    rw [historyCost_cons, historyCost_cons]
    have hcells := cost_le (switchCosts mode) p q (lineItems line)
    rcases after_cellItems (line.take (usedCells line)) false with hempty | hsame
    · rw [show lineItems line = [] from hempty]
      simp only [after, settle, resetSize, hp, hq, Bool.false_eq_true, if_false, cost]
      omega
    · rw [show after p (lineItems line) = after q (lineItems line) from hsame p q]
      omega

/-- An older line makes the history no shorter. -/
lemma historyCost_older (mode : ColorMode) (line : Line) (lines : List Line) :
    historyCost mode lines {} ≤ historyCost mode (line :: lines) {} := by
  have hreach := reach_le (switchCosts mode) {} (lineItems line)
  rw [historyCost_cons]
  cases hstyled : isStyled (normalizeCell mode (after {} (lineItems line))) with
  | true =>
    rw [settle, if_pos hstyled]
    omega
  | false =>
    have hplain : isStyled (normalizeCell mode {}) = false := by
      rw [normalizeCell_default]
      rfl
    have hle := historyCost_le mode lines hplain hstyled
    rw [settle, if_neg (by rw [hstyled]; nofun)]
    omega

/-- The newest lines of the history. -/
def newestLines (g : Grid) (n : Nat) : List Line :=
  (List.range n).filterMap fun i => g.scrollbackLine (g.historySize - n + i)

/-- One more line of the history is the next older one in front. -/
lemma newestLines_succ (g : Grid) {n : Nat} (h : n < g.historySize) :
    newestLines g (n + 1) = (g.scrollbackLine (g.historySize - (n + 1))).toList ++ newestLines g n := by
  have hshift : ∀ i, g.historySize - (n + 1) + (i + 1) = g.historySize - n + i := by omega
  unfold newestLines
  rw [List.range_succ_eq_map, List.filterMap_cons, List.filterMap_map]
  simp only [Function.comp_def, Nat.succ_eq_add_one, hshift, Nat.add_zero]
  cases g.scrollbackLine (g.historySize - (n + 1)) <;> rfl

/-- More lines cost no less. -/
lemma historyCost_newest (mode : ColorMode) (g : Grid) {n n' : Nat} (h : n ≤ n')
    (inside : n' ≤ g.historySize) :
    historyCost mode (newestLines g n) {} ≤ historyCost mode (newestLines g n') {} := by
  induction h with
  | refl => exact Nat.le_refl _
  | @step m hm ih =>
    refine (ih (by omega)).trans ?_
    rw [newestLines_succ g inside]
    cases g.scrollbackLine (g.historySize - (m + 1)) with
    | none => exact Nat.le_refl _
    | some line => exact historyCost_older mode line _

/-- The size of the encoding. -/
def encodedSize (g : Grid) (ep : EncodeParams) : Nat := (encodeAll g ep).length

/-- The sizes of all that an encoding is made of. -/
lemma encodedSize_le {g : Grid} {ep ep' : EncodeParams}
    (history : (encodeHistorySection g ep).length ≤ (encodeHistorySection g ep').length)
    (main : screenSize ep.color g.main ep.cropTop (endRow g ep) ≤
      screenSize ep'.color g.main ep'.cropTop (endRow g ep'))
    (active : screenSize ep.color g.activeLines ep.cropTop (endRow g ep) ≤
      screenSize ep'.color g.activeLines ep'.cropTop (endRow g ep'))
    (slot : ∀ sc save, (encodeSlot g ep.color sc save).length ≤ (encodeSlot g ep'.color sc save).length)
    (restore : (encodeModeRestore g ep.color).length ≤ (encodeModeRestore g ep'.color).length) :
    encodedSize g ep ≤ encodedSize g ep' := by
  have hmain : (encodeMainScreen g ep).length ≤ (encodeMainScreen g ep').length := by
    have hslot := slot g.savedMain (asciiBytes "\x1b[?1049h")
    unfold screenSize at main
    unfold encodeMainScreen
    split
    · simp only [List.length_append]
      omega
    · exact Nat.le_refl _
  unfold screenSize at active
  simp only [encodedSize, encodeAll, encodeScrollback, encodeScreen, List.length_append]
  omega

/-- With more lines of the history the encoding takes no less. -/
theorem encodedSize_newest (g : Grid) {n n' : Nat} (h : n ≤ n') (inside : n' ≤ g.historySize) :
    encodedSize g (newest g n) ≤ encodedSize g (newest g n') := by
  refine encodedSize_le ?_ (Nat.le_refl _) (Nat.le_refl _) (fun _ _ => Nat.le_refl _) (Nat.le_refl _)
  have hlines := historyCost_newest .full g h inside
  unfold historyCost newestLines at hlines
  unfold encodeHistorySection newest
  dsimp only
  split
  · rw [if_pos (by omega)]
    simp only [List.length_append, List.length_replicate]
    exact Nat.add_le_add_right hlines _
  · exact Nat.zero_le _

/-- In coarser colours it takes no more. -/
lemma encodedSize_coarser (g : Grid) {mode mode' : ColorMode} (coarser : Coarser mode mode') :
    encodedSize g (inColors g mode) ≤ encodedSize g (inColors g mode') :=
  encodedSize_le (Nat.le_refl _) (screenSize_coarser coarser _ _ _) (screenSize_coarser coarser _ _ _)
    (length_encodeSlot_coarser coarser g) (length_encodeModeRestore_coarser coarser g)

/-- The rows end above those left out below. -/
lemma endRow_eq (g : Grid) (ep : EncodeParams) : endRow g ep = g.rows - ep.cropBot := by
  unfold endRow
  split
  · rfl
  · omega

/-- With more rows left out it takes no more. -/
theorem encodedSize_cropped (g : Grid) {top top' bot bot' : Nat} (htop : top ≤ top') (hbot : bot ≤ bot') :
    encodedSize g (cropped g top' bot') ≤ encodedSize g (cropped g top bot) := by
  have hend : endRow g (cropped g top' bot') ≤ endRow g (cropped g top bot) := by
    rw [endRow_eq, endRow_eq]
    exact Nat.sub_le_sub_left hbot g.rows
  refine encodedSize_le (Nat.le_refl _) ?_ ?_ (fun _ _ => Nat.le_refl _) (Nat.le_refl _)
  · exact (screenSize_bottom .none _ _ hend).trans (screenSize_top .none _ _ htop)
  · exact (screenSize_bottom .none _ _ hend).trans (screenSize_top .none _ _ htop)

/-- No rung is smaller than the cursor's row alone, without colours. -/
theorem encodedSize_least (g : Grid) {n : Nat} (inside : n ≤ g.historySize) (top bot : Nat) :
    encodedSize g (cropped g top bot) ≤ encodedSize g (inColors g .none) ∧
      encodedSize g (inColors g .none) ≤ encodedSize g (inColors g .indexed256) ∧
      encodedSize g (inColors g .indexed256) ≤ encodedSize g (newest g n) := by
  refine ⟨encodedSize_cropped g (Nat.zero_le top) (Nat.zero_le bot),
    encodedSize_coarser g coarser_none, ?_⟩
  have hnone : encodedSize g (inColors g .full) = encodedSize g (newest g 0) := rfl
  have hnewest := encodedSize_newest g (Nat.zero_le n) inside
  have hcolors := encodedSize_coarser g coarser_indexed256
  omega

end Zet.Terminal.Snapshot
