import Zet.Terminal.Cell

/-!
# Select graphic rendition

`Grid::ApplySgr` (`src/grid/grid.cpp`), on the pen. A parameter comes with whether a colon stands in
front of it, and a turn of the loop looks at the parameters behind its own: `selectColor` is the
shared reading of `38`, `48` and `58`.
-/

namespace Zet.Terminal

/-- A parameter of a control sequence; `colon` marks a sub-parameter of the one before. -/
structure Param where
  value : Nat
  colon : Bool
deriving DecidableEq, Repr

/-- The value of the parameter `k` behind the current one. -/
def paramAt (rest : List Param) (k : Nat) : Nat := (rest.getD k ⟨0, false⟩).value

/-- `static_cast<std::uint8_t>` of a parameter. -/
def byteAt (rest : List Param) (k : Nat) : UInt8 := UInt8.ofNat (paramAt rest k)

/-- The parameters behind a `38` or `48`: the colour they select, if any, and how many of them are
used up. -/
def selectColor (rest : List Param) : Option Color × Nat :=
  let trueColor (k : Nat) : Color := ⟨.trueColor, byteAt rest k, byteAt rest (k + 1), byteAt rest (k + 2)⟩
  let subs := (rest.takeWhile (·.colon)).length
  if 1 ≤ subs then
    -- Colon sub-parameters: all of them are used up, understood or not.
    if 2 ≤ subs ∧ paramAt rest 0 = 5 then (some (.ofIndex (byteAt rest 1)), subs)
    else if 5 ≤ subs ∧ paramAt rest 0 = 2 then (some (trueColor 2), subs)
    else if 4 ≤ subs ∧ paramAt rest 0 = 2 then (some (trueColor 1), subs)
    else (none, subs)
  else if 2 ≤ rest.length ∧ paramAt rest 0 = 5 then (some (.ofIndex (byteAt rest 1)), 2)
  else if 4 ≤ rest.length ∧ paramAt rest 0 = 2 then (some (trueColor 1), 4)
  else (none, 0)

/-- `58`: of the colours selected the same way only a palette index is kept. -/
def underlineColor (rest : List Param) (ulIdx : UInt8) : UInt8 :=
  match (selectColor rest).1 with
  | some ⟨.indexed, idx, _, _⟩ => idx
  | _ => ulIdx

/-- `4`: the underline style that a sub-parameter gives, if one does. -/
def underlineStyle (rest : List Param) : Option Nat :=
  match rest with
  | ⟨style, true⟩ :: _ => if style ≤ 5 then some style else none
  | _ => none

/-- The pen with another set of attribute flags. -/
def Pen.mapAttrs (pen : Pen) (f : Attrs → Attrs) : Pen := { pen with attrs := f pen.attrs }

/-- One turn of the loop of `ApplySgr`: the pen, and how many parameters behind this one are used
up. -/
def sgrStep (pen : Pen) (p : Nat) (rest : List Param) : Pen × Nat :=
  match p with
  | 0 => ({}, 0)
  | 1 => (pen.mapAttrs fun a => { a with bold := true }, 0)
  | 2 => (pen.mapAttrs fun a => { a with dim := true }, 0)
  | 3 => (pen.mapAttrs fun a => { a with italic := true }, 0)
  | 4 =>
    match underlineStyle rest with
    | some 0 => ({ pen.mapAttrs fun a => { a with underline := false } with attrEx := 0 }, 1)
    | some style =>
      ({ pen.mapAttrs fun a => { a with underline := true } with attrEx := UInt8.ofNat style }, 1)
    | none => ({ pen.mapAttrs fun a => { a with underline := true } with attrEx := 1 }, 0)
  | 5 => (pen.mapAttrs fun a => { a with blink := true }, 0)
  | 7 => (pen.mapAttrs fun a => { a with inverse := true }, 0)
  | 8 => (pen.mapAttrs fun a => { a with invisible := true }, 0)
  | 9 => (pen.mapAttrs fun a => { a with strikeThrough := true }, 0)
  | 21 => ({ pen.mapAttrs fun a => { a with underline := true } with attrEx := 2 }, 0)
  | 22 => (pen.mapAttrs fun a => { a with bold := false, dim := false }, 0)
  | 23 => (pen.mapAttrs fun a => { a with italic := false }, 0)
  | 24 => ({ pen.mapAttrs fun a => { a with underline := false } with attrEx := 0 }, 0)
  | 25 => (pen.mapAttrs fun a => { a with blink := false }, 0)
  | 27 => (pen.mapAttrs fun a => { a with inverse := false }, 0)
  | 28 => (pen.mapAttrs fun a => { a with invisible := false }, 0)
  | 29 => (pen.mapAttrs fun a => { a with strikeThrough := false }, 0)
  | 38 => ({ pen with fg := (selectColor rest).1.getD pen.fg }, (selectColor rest).2)
  | 39 => ({ pen with fg := {} }, 0)
  | 48 => ({ pen with bg := (selectColor rest).1.getD pen.bg }, (selectColor rest).2)
  | 49 => ({ pen with bg := {} }, 0)
  | 58 => ({ pen with ulIdx := underlineColor rest pen.ulIdx }, (selectColor rest).2)
  | 59 => ({ pen with ulIdx := 0 }, 0)
  | p =>
    if 30 ≤ p ∧ p ≤ 37 then ({ pen with fg := .ofIndex (UInt8.ofNat (p - 30)) }, 0)
    else if 40 ≤ p ∧ p ≤ 47 then ({ pen with bg := .ofIndex (UInt8.ofNat (p - 40)) }, 0)
    else if 90 ≤ p ∧ p ≤ 97 then ({ pen with fg := .ofIndex (UInt8.ofNat (p - 90 + 8)) }, 0)
    else if 100 ≤ p ∧ p ≤ 107 then ({ pen with bg := .ofIndex (UInt8.ofNat (p - 100 + 8)) }, 0)
    else (pen, 0)

/-- The loop of `ApplySgr`, in at most `fuel` turns. -/
def sgrLoop : (fuel : Nat) → List Param → Pen → Pen
  | 0, _, pen => pen
  | _, [], pen => pen
  | fuel + 1, p :: rest, pen =>
    let turn := sgrStep pen p.value rest
    sgrLoop fuel (rest.drop turn.2) turn.1

/-- `Grid::ApplySgr`, on the pen. -/
def applySgr (params : List Param) (pen : Pen) : Pen :=
  if params.isEmpty then {} else sgrLoop params.length params pen

end Zet.Terminal
