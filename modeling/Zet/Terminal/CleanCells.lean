import Zet.Lib.Utf8
import Zet.Terminal.Lines

/-!
# Cells without controls

A cell that was printed shows a scalar value that is no control; a blank cell and the second half of
a wide one hold 0. Single lines keep this (`cleanLaws`), so every grid does, if nothing but such
values is printed. Every entry of the graphics set is one.
-/

namespace Zet.Terminal
open Zet.Core Zet.Lib

/-- A code point that is a Unicode scalar value and no control. -/
def IsPrintable (cp : Nat) : Prop :=
  0x20 ≤ cp ∧ cp ≠ 0x7F ∧ (cp < 0x80 ∨ 0xA0 ≤ cp) ∧ Utf8.IsScalar cp

instance (v : Nat) : Decidable (Utf8.IsScalar v) := inferInstanceAs (Decidable (_ ∨ _))

instance (cp : Nat) : Decidable (IsPrintable cp) := inferInstanceAs (Decidable (_ ∧ _))

/-- A character that takes up cells. -/
def Printed (cp width : Nat) : Prop := IsPrintable cp ∧ (width = 1 ∨ width = 2)

/-- A cell that shows a printable character of one or two columns, or 0 where it is blank or a second
half. -/
def CleanCell (cell : Cell) : Prop :=
  (IsPrintable cell.codepoint ∧ cell.width ≤ 2) ∨ (cell.codepoint = 0 ∧ cell.width ≤ 1)

/-- A line of such cells. -/
def CleanLine (line : Line) : Prop := ∀ cell ∈ line, CleanCell cell

/-- A blank in any pen is clean. -/
lemma CleanCell.blank (pen : Pen) : CleanCell { pen := pen } := .inr ⟨rfl, Nat.le_refl 1⟩

/-- The tail of a wide character is clean. -/
lemma CleanCell.tail : CleanCell { width := 0 } := .inr ⟨rfl, Nat.zero_le 1⟩

namespace CleanLine

variable {line : Line} {cell : Cell}

/-- A line of one clean cell is clean. -/
lemma replicate (n : Nat) (hcell : CleanCell cell) : CleanLine (List.replicate n cell) := by
  intro x hx
  rw [List.eq_of_mem_replicate hx]
  exact hcell

/-- Every cell of a clean line is clean. -/
lemma at_ (h : CleanLine line) (col : Nat) : CleanCell (line.at col) := by
  unfold Line.at
  rcases Nat.lt_or_ge col line.length with hin | hout
  · rw [List.getD_eq_getElem _ _ hin]
    exact h _ (List.getElem_mem hin)
  · rw [List.getD_eq_default _ _ hout]
    exact .blank {}

/-- Setting a clean cell keeps a line clean. -/
lemma set (h : CleanLine line) (col : Nat) (hcell : CleanCell cell) : CleanLine (line.set col cell) := by
  intro x hx
  rcases List.mem_or_eq_of_mem_set hx with hold | rfl
  · exact h x hold
  · exact hcell

/-- Filling with a clean cell does. -/
lemma fillCells (h : CleanLine line) (start stop : Nat) (hcell : CleanCell cell) :
    CleanLine (Grid.fillCells start stop cell line) := by
  intro x hx
  obtain ⟨i, hi, rfl⟩ := List.mem_mapIdx.mp hx
  split
  · exact hcell
  · exact h _ (List.getElem_mem hi)

/-- Moving cells does. -/
lemma moveCells (h : CleanLine line) (dst src count : Nat) :
    CleanLine (Grid.moveCells dst src count line) := by
  intro x hx
  obtain ⟨i, hi, rfl⟩ := List.mem_mapIdx.mp hx
  split
  · exact h.at_ _
  · exact h _ (List.getElem_mem hi)

/-- Blanking a cell does. -/
lemma blankWhere (h : CleanLine line) (col width : Nat) (hcell : CleanCell cell) :
    CleanLine (Grid.blankWhere col width cell line) := by
  unfold Grid.blankWhere
  split
  · exact h.set _ hcell
  · exact h

variable (g : Grid)

/-- Repairing orphans does. -/
lemma repairWideOrphans (h : CleanLine line) (first last : Nat) :
    CleanLine (g.repairWideOrphans first last line) := by
  have hleft : CleanLine
      (if first > 0 then Grid.blankWhere (first - 1) 2 g.blankCell line else line) := by
    split
    · exact h.blankWhere _ _ (.blank _)
    · exact h
  unfold Grid.repairWideOrphans
  dsimp only
  split
  · exact hleft.blankWhere _ _ (.blank _)
  · exact hleft

/-- Deleting cells does. -/
lemma deleteCells (h : CleanLine line) (n : Nat) : CleanLine (g.deleteCells n line) := by
  have hstart : CleanLine (if g.cursorCol > 0 ∧ (line.at g.cursorCol).width = 0 then
      (line.set (g.cursorCol - 1) g.blankCell).set g.cursorCol g.blankCell else line) := by
    split
    · exact (h.set _ (.blank _)).set _ (.blank _)
    · exact h
  have hmoved := ((hstart.moveCells g.cursorCol (g.cursorCol + n) (g.cols - g.cursorCol - n)).fillCells
    (g.cols - n) g.cols (.blank { bg := g.pen.bg })).blankWhere g.cursorCol 0 (.blank { bg := g.pen.bg })
  unfold Grid.deleteCells
  dsimp only
  split
  · exact hmoved.blankWhere _ _ (.blank _)
  · exact hmoved

/-- Inserting blanks does. -/
lemma insertCells (h : CleanLine line) (n : Nat) : CleanLine (g.insertCells n line) := by
  have hmoved := (h.moveCells (g.cursorCol + n) g.cursorCol (g.cols - g.cursorCol - n)).fillCells
    g.cursorCol (g.cursorCol + n) (.blank { bg := g.pen.bg })
  have hleft : CleanLine (if g.cursorCol > 0 then Grid.blankWhere (g.cursorCol - 1) 2 g.blankCell
      (Grid.fillCells g.cursorCol (g.cursorCol + n) g.blankCell
        (Grid.moveCells (g.cursorCol + n) g.cursorCol (g.cols - g.cursorCol - n) line))
      else Grid.fillCells g.cursorCol (g.cursorCol + n) g.blankCell
        (Grid.moveCells (g.cursorCol + n) g.cursorCol (g.cols - g.cursorCol - n) line)) := by
    split
    · exact hmoved.blankWhere _ _ (.blank _)
    · exact hmoved
  unfold Grid.insertCells
  dsimp only
  refine CleanLine.blankWhere ?_ _ _ (.blank _)
  split
  · exact hleft.blankWhere _ _ (.blank _)
  · exact hleft

/-- Blanking a tail does. -/
lemma blankTail (h : CleanLine line) (col : Nat) : CleanLine (g.blankTail col line) := by
  unfold Grid.blankTail
  split
  · exact h.set _ (.blank _)
  · exact h

/-- Breaking a head does. -/
lemma breakHead (h : CleanLine line) : CleanLine (g.breakHead line) := by
  unfold Grid.breakHead
  dsimp only
  split
  · refine h.set _ ?_
    rcases h.at_ (g.cursorCol - 1) with hshown | ⟨hzero, -⟩
    · exact .inl ⟨hshown.1, Nat.le_succ 1⟩
    · exact .inr ⟨hzero, Nat.le_refl 1⟩
  · exact h

/-- Writing a character that can be printed does. -/
lemma writeCells (h : CleanLine line) {cp width : Nat} (hok : Printed cp width) :
    CleanLine (g.writeCells cp width line) := by
  have hwidth : width ≤ 2 := by
    rcases hok.2 with rfl | rfl
    · exact Nat.le_succ 1
    · exact Nat.le_refl 2
  have hhead : CleanLine ((g.blankTail g.cursorCol (g.breakHead line)).set g.cursorCol
      { codepoint := cp, width := width, pen := g.pen }) :=
    ((h.breakHead g).blankTail g _).set _ (.inl ⟨hok.1, hwidth⟩)
  unfold Grid.writeCells Grid.writeTail
  dsimp only
  split
  · exact (hhead.blankTail g _).set _ .tail
  · exact hhead

/-- Fitting the line to another width does. -/
lemma fitLine (h : CleanLine line) (newCols : Nat) : CleanLine (g.fitLine newCols line) := by
  have hcut : CleanLine (g.cutLine newCols line) := by
    unfold Grid.cutLine
    split
    · exact h.blankWhere _ _ (.blank _)
    · exact h
  intro x hx
  rcases List.mem_append.mp hx with hkept | hfresh
  · exact hcut x (List.mem_of_mem_take hkept)
  · rw [List.eq_of_mem_replicate hfresh]
    exact .blank {}

end CleanLine

/-- Every character of the graphics set is printable. -/
lemma printable_decGfx : ∀ i, i < 31 → IsPrintable (Grid.decGfx.getD i 0) := by
  decide

/-- The character sets translate what can be printed to what can be printed. -/
lemma printable_translate (g : Grid) {cp : Nat} (h : IsPrintable cp) : IsPrintable (g.translate cp) := by
  unfold Grid.translate
  dsimp only
  generalize (if g.charsetActive = 0 then g.charsetG0 else g.charsetG1) = cs
  split
  · next hin => exact printable_decGfx _ (by omega)
  · exact h

/-- Single lines keep clean cells. -/
theorem cleanLaws (c : Nat) : LineLaws c Printed CleanLine where
  blank bg := .replicate c (.blank _)
  erase g line first last stop _ hline _ _ _ := (hline.repairWideOrphans g _ _).fillCells _ _ (.blank _)
  delete g line n _ _ hline _ _ := hline.deleteCells g n
  insert g line n _ _ hline _ _ := hline.insertCells g n
  write g line cp width _ _ hline hok _ := hline.writeCells g hok
  translate g cp width hok := ⟨printable_translate g hok.1, hok.2⟩
  space := ⟨by decide, .inl rfl⟩

/-- Lines fitted into other columns keep clean cells. -/
theorem cleanFits (c c' : Nat) : FitLaws c c' CleanLine CleanLine where
  blank := .replicate c' (.blank {})
  same _ _ hline := hline
  fit g _ _ hline := hline.fitLine g c'

end Zet.Terminal
