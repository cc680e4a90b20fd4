import Zet.Terminal.Parameters

/-!
# What `EmitSgr` writes, read back

The two sequences are lists of parameters (`Snapshot.emitSgr_eq`), and the loop of `ApplySgr` over
these, from whatever pen, ends with the pen they were written for. A pen that `ApplySgr` can produce
has no underline style without the flag and no colour bytes without a kind (`Pen.Settled`); others
would not come back.
-/

namespace Zet.Terminal
open Zet.Core Zet.Lib VtParser

namespace Snapshot

/-- A flag, as a parameter. -/
def flagParams (set : Bool) (value : Nat) : List Param := if set then [⟨value, false⟩] else []

/-- The underline, as parameters. -/
def underlineParams (c : Pen) : List Param :=
  if c.attrs.underline then
    if c.attrEx > 1 then [⟨4, false⟩, ⟨c.attrEx.toNat, true⟩] else [⟨4, false⟩]
  else []

/-- A colour, as parameters: `low` and `high` are the first of the eight plain and of the eight bright
ones, `direct` selects every other. -/
def colorParams (low high direct : Nat) (color : Color) : List Param :=
  match color.kind with
  | .indexed =>
    let idx := color.c₀.toNat
    if idx < 8 then [⟨low + idx, false⟩]
    else if idx < 16 then [⟨high + (idx - 8), false⟩]
    else [⟨direct, false⟩, ⟨5, false⟩, ⟨idx, false⟩]
  | .trueColor =>
    [⟨direct, false⟩, ⟨2, false⟩, ⟨color.c₀.toNat, false⟩, ⟨color.c₁.toNat, false⟩, ⟨color.c₂.toNat, false⟩]
  | .default => []

/-- The parameters of the first sequence. -/
def firstList (c : Pen) : List Param :=
  ⟨0, false⟩ :: (flagParams c.attrs.bold 1 ++ flagParams c.attrs.dim 2 ++ flagParams c.attrs.italic 3 ++
    underlineParams c ++ flagParams c.attrs.blink 5 ++ flagParams c.attrs.inverse 7 ++
    flagParams c.attrs.invisible 8 ++ flagParams c.attrs.strikeThrough 9 ++ colorParams 30 90 38 c.fg)

/-- The underline colour, as parameters. -/
def underlineColorParams (c : Pen) : List Param :=
  if c.ulIdx ≠ 0 then [⟨58, false⟩, ⟨5, false⟩, ⟨c.ulIdx.toNat, false⟩] else []

/-- The parameters of the second sequence. -/
def secondList (c : Pen) : List Param := colorParams 40 100 48 c.bg ++ underlineColorParams c

/-- An attribute that is set is one parameter. -/
lemma flag_eq (set : Bool) {literal : String} {value : Nat}
    (h : asciiBytes literal = renderParams [⟨value, false⟩]) :
    flag set literal = renderParams (flagParams set value) := by
  cases set with
  | true => exact h
  | false => rfl

/-- The underline is written as its parameters. -/
lemma underlineText_eq (c : Pen) : underlineText c = renderParams (underlineParams c) := by
  unfold underlineText underlineParams
  split
  · split
    · change asciiBytes ";4:" ++ writeDecimal c.attrEx.toNat =
        renderParams [⟨4, false⟩] ++ (0x3A :: (writeDecimal c.attrEx.toNat ++ []))
      rw [List.append_nil]
      rfl
    · rfl
  · rfl

/-- The first parameter is written in front of the others. -/
lemma renderParams_cons (value : Nat) (params : List Param) :
    renderParams (⟨value, false⟩ :: params) = asciiBytes ";" ++ writeDecimal value ++ renderParams params := rfl

/-- A single one is written behind its separator. -/
lemma renderParams_one (value : Nat) :
    renderParams [⟨value, false⟩] = asciiBytes ";" ++ writeDecimal value := List.append_nil _

/-- The foreground is written as its parameters. -/
lemma foregroundText_eq (color : Color) :
    foregroundText color = renderParams (colorParams 30 90 38 color) := by
  obtain ⟨kind, c₀, c₁, c₂⟩ := color
  cases kind with
  | default => rfl
  | indexed =>
    simp only [foregroundText, colorParams]
    split
    · exact (renderParams_one _).symm
    split
    · exact (renderParams_one _).symm
    · rw [renderParams_cons, renderParams_cons, renderParams_one]
      rfl
  | trueColor =>
    simp only [foregroundText, colorParams]
    rw [renderParams_cons, renderParams_cons, renderParams_cons, renderParams_cons, renderParams_one]
    simp only [List.append_assoc]
    rfl

/-- The background is written as its parameters. -/
lemma backgroundText_eq (color : Color) :
    backgroundText color = writtenParams (colorParams 40 100 48 color) := by
  obtain ⟨kind, c₀, c₁, c₂⟩ := color
  cases kind with
  | default => rfl
  | indexed =>
    simp only [backgroundText, colorParams]
    split
    · exact (List.append_nil _).symm
    split
    · exact (List.append_nil _).symm
    · rw [writtenParams, renderParams_cons, renderParams_one]
      rfl
  | trueColor =>
    simp only [backgroundText, colorParams, writtenParams]
    rw [renderParams_cons, renderParams_cons, renderParams_cons, renderParams_one]
    simp only [List.append_assoc]
    rfl

/-- The first sequence is written as its list. -/
lemma firstParams_eq (c : Pen) : firstParams c = writtenParams (firstList c) := by
  have hbold := flag_eq c.attrs.bold (show asciiBytes ";1" = renderParams [⟨1, false⟩] from rfl)
  have hdim := flag_eq c.attrs.dim (show asciiBytes ";2" = renderParams [⟨2, false⟩] from rfl)
  have hitalic := flag_eq c.attrs.italic (show asciiBytes ";3" = renderParams [⟨3, false⟩] from rfl)
  have hblink := flag_eq c.attrs.blink (show asciiBytes ";5" = renderParams [⟨5, false⟩] from rfl)
  have hinverse := flag_eq c.attrs.inverse (show asciiBytes ";7" = renderParams [⟨7, false⟩] from rfl)
  have hinvisible := flag_eq c.attrs.invisible (show asciiBytes ";8" = renderParams [⟨8, false⟩] from rfl)
  have hstrike := flag_eq c.attrs.strikeThrough (show asciiBytes ";9" = renderParams [⟨9, false⟩] from rfl)
  unfold firstParams firstList
  rw [hbold, hdim, hitalic, hblink, hinverse, hinvisible, hstrike, underlineText_eq, foregroundText_eq]
  simp only [writtenParams, renderParams_append, List.append_assoc]
  rfl

/-- The default colour takes no parameter. -/
lemma colorParams_default {low high direct : Nat} {color : Color} (h : color.kind = .default) :
    colorParams low high direct color = [] := by
  rw [colorParams, h]

/-- Any other colour takes one at least. -/
lemma colorParams_ne {low high direct : Nat} {color : Color} (h : color.kind ≠ .default) :
    colorParams low high direct color ≠ [] := by
  obtain ⟨kind, c₀, c₁, c₂⟩ := color
  cases kind with
  | default => exact absurd rfl h
  | indexed =>
    simp only [colorParams]
    repeat' split
    all_goals exact List.cons_ne_nil _ _
  | trueColor => exact List.cons_ne_nil _ _

/-- The second sequence is written as its list. -/
lemma secondParams_eq (c : Pen) : secondParams c = writtenParams (secondList c) := by
  unfold secondParams secondList underlineColorParams
  dsimp only
  rw [backgroundText_eq]
  by_cases hbg : c.bg.kind = .default
  · rw [colorParams_default hbg, if_neg (not_not.mpr hbg)]
    split
    · change _ = writeDecimal 58 ++ renderParams _
      rw [renderParams_cons, renderParams_one]
      rfl
    · rfl
  · rw [if_pos hbg, writtenParams_append (colorParams_ne hbg)]
    congr 1
    split
    · rw [renderParams_cons, renderParams_cons, renderParams_one]
      rfl
    · rfl

/-- `EmitSgr`, as lists of parameters. -/
def sgrLists (pen c : Pen) : List (List Param) :=
  if pen = c then []
  else firstList c :: if c.bg.kind ≠ .default ∨ c.ulIdx ≠ 0 then [secondList c] else []

/-- A sequence that selects graphic rendition. -/
def sgrSequence (body : Bytes) : Bytes := [0x1B, 0x5B] ++ body ++ [0x6D]

/-- A pen is written as the sequences of its lists. -/
lemma emitSgr_eq (pen c : Pen) :
    emitSgr pen c = (sgrLists pen c).flatMap fun params => sgrSequence (writtenParams params) := by
  unfold emitSgr sgrLists
  split
  · rfl
  · rw [List.flatMap_cons, firstParams_eq, secondParams_eq]
    split
    · rw [List.flatMap_singleton]
      rfl
    · rfl

end Snapshot

/-- A colour whose bytes are as its kind sets them. -/
def Color.Settled (color : Color) : Prop :=
  match color.kind with
  | .default => color = {}
  | .indexed => color = .ofIndex color.c₀
  | .trueColor => True

/-- A pen whose underline style goes with the flag, and whose colours are settled. -/
structure Pen.Settled (c : Pen) : Prop where
  underline : c.attrs.underline = decide (c.attrEx ≠ 0)
  style : c.attrEx.toNat ≤ 5
  fg : c.fg.Settled
  bg : c.bg.Settled

/-- The pens that `ApplySgr` can produce. -/
inductive SgrReachable : Pen → Prop
  | fresh : SgrReachable {}
  | apply {c : Pen} (params : List Param) : SgrReachable c → SgrReachable (applySgr params c)

/-- A colour that was selected is in its normal form. -/
lemma settled_selectColor {rest : List Param} {color : Color}
    (h : (selectColor rest).1 = some color) : color.Settled := by
  revert h
  unfold selectColor
  dsimp only
  repeat' split
  all_goals intro h; cases h
  all_goals first
    | exact rfl
    | exact trivial

/-- So is what is left where none was selected. -/
lemma settled_getD {rest : List Param} {color : Color} (h : color.Settled) :
    ((selectColor rest).1.getD color).Settled := by
  cases hselect : (selectColor rest).1 with
  | none => exact h
  | some selected => exact settled_selectColor hselect

namespace Pen.Settled

variable {c : Pen}

/-- Flags other than the underline. -/
lemma flags (h : c.Settled) {f : Attrs → Attrs} (hf : (f c.attrs).underline = c.attrs.underline) :
    (c.mapAttrs f).Settled :=
  { h with underline := hf.trans h.underline }

/-- The underline flag, with a style. -/
lemma styled (h : c.Settled) {f : Attrs → Attrs} {style : UInt8} (hstyle : style.toNat ≤ 5)
    (hf : (f c.attrs).underline = decide (style ≠ 0)) :
    Pen.Settled { c.mapAttrs f with attrEx := style } :=
  { h with underline := hf, style := hstyle }

/-- A settled pen stays settled in another foreground. -/
lemma foreground (h : c.Settled) {color : Color} (hcolor : color.Settled) :
    Pen.Settled { c with fg := color } :=
  { h with fg := hcolor }

/-- It does in another background. -/
lemma background (h : c.Settled) {color : Color} (hcolor : color.Settled) :
    Pen.Settled { c with bg := color } :=
  { h with bg := hcolor }

end Pen.Settled

/-- There are five underline styles. -/
lemma underlineStyle_le {rest : List Param} {style : Nat} (h : underlineStyle rest = some style) :
    style ≤ 5 := by
  unfold underlineStyle at h
  split at h
  · split at h
    · next hle => exact Option.some.inj h ▸ hle
    · cases h
  · cases h

/-- A style that is not zero is an underline. -/
lemma style_ofNat : ∀ style, style ≤ 5 → style ≠ 0 →
    (UInt8.ofNat style).toNat ≤ 5 ∧ true = decide (UInt8.ofNat style ≠ 0) := by
  decide

/-- One parameter leaves a settled pen settled. -/
lemma settled_sgrStep {c : Pen} (h : c.Settled) (p : Nat) (rest : List Param) :
    (sgrStep c p rest).1.Settled := by
  unfold sgrStep
  split
  case h_1 => exact ⟨rfl, by decide, rfl, rfl⟩
  case h_5 =>
    split
    · exact h.styled (Nat.zero_le 5) rfl
    · next style hne hstyle =>
      obtain ⟨hle, hset⟩ := style_ofNat style (underlineStyle_le hstyle) hne
      exact h.styled hle hset
    · refine h.styled ?_ rfl
      decide
  case h_10 =>
    refine h.styled ?_ rfl
    decide
  case h_13 => exact h.styled (Nat.zero_le 5) rfl
  case h_18 => exact h.foreground (settled_getD h.fg)
  case h_19 => exact h.foreground rfl
  case h_20 => exact h.background (settled_getD h.bg)
  case h_21 => exact h.background rfl
  case h_22 => exact { h with }
  case h_23 => exact { h with }
  case h_24 =>
    split
    · exact h.foreground rfl
    split
    · exact h.background rfl
    split
    · exact h.foreground rfl
    split
    · exact h.background rfl
    · exact h
  all_goals dsimp only
  all_goals exact h.flags rfl

/-- Any parameters do. -/
lemma settled_sgrLoop {c : Pen} (h : c.Settled) (fuel : Nat) (params : List Param) :
    (sgrLoop fuel params c).Settled := by
  induction fuel generalizing params c with
  | zero => exact h
  | succ fuel ih =>
    cases params with
    | nil => exact h
    | cons p rest => exact ih (settled_sgrStep h p.value rest) _

/-- Every pen that `ApplySgr` can produce is settled. -/
lemma SgrReachable.settled {c : Pen} (h : SgrReachable c) : c.Settled := by
  have hfresh : Pen.Settled {} := ⟨rfl, by decide, rfl, rfl⟩
  induction h with
  | fresh => exact hfresh
  | apply params _ ih =>
    unfold applySgr
    split
    · exact hfresh
    · exact settled_sgrLoop ih _ _

/-- The loop of `ApplySgr` to the end of the parameters. -/
def sgrRun (params : List Param) (pen : Pen) : Pen := sgrLoop params.length params pen

/-- As many turns as there are parameters are enough. -/
lemma sgrLoop_enough {fuel fuel' : Nat} {params : List Param} {pen : Pen}
    (h : params.length ≤ fuel) (h' : params.length ≤ fuel') :
    sgrLoop fuel params pen = sgrLoop fuel' params pen := by
  induction fuel generalizing fuel' params pen with
  | zero =>
    obtain rfl : params = [] := List.eq_nil_of_length_eq_zero (Nat.le_zero.mp h)
    cases fuel' <;> rfl
  | succ fuel ih =>
    cases params with
    | nil => cases fuel' <;> rfl
    | cons p rest =>
      rw [List.length_cons] at h h'
      obtain ⟨fuel'', rfl⟩ : ∃ fuel'', fuel' = fuel'' + 1 := ⟨fuel' - 1, by omega⟩
      rw [sgrLoop, sgrLoop]
      refine ih ?_ ?_
      · rw [List.length_drop]
        omega
      · rw [List.length_drop]
        omega

/-- One turn. -/
lemma sgrRun_cons (p : Param) (rest : List Param) (pen : Pen) :
    sgrRun (p :: rest) pen =
      sgrRun (rest.drop (sgrStep pen p.value rest).2) (sgrStep pen p.value rest).1 := by
  rw [sgrRun, List.length_cons, sgrLoop]
  refine sgrLoop_enough ?_ (Nat.le_refl _)
  rw [List.length_drop]
  exact Nat.sub_le ..

/-- A turn that uses up no more parameters. -/
lemma sgrRun_step {value : Nat} {colon : Bool} {rest : List Param} {pen pen' : Pen}
    (hstep : sgrStep pen value rest = (pen', 0)) :
    sgrRun (⟨value, colon⟩ :: rest) pen = sgrRun rest pen' := by
  rw [sgrRun_cons, hstep]
  rfl

/-- A flag that is set or left alone. -/
lemma sgrRun_flag {set : Bool} {value : Nat} {rest : List Param} {pen pen' : Pen}
    (hset : set = true → sgrStep pen value rest = (pen', 0)) (hclear : set = false → pen = pen') :
    sgrRun (Snapshot.flagParams set value ++ rest) pen = sgrRun rest pen' := by
  cases set with
  | true => exact sgrRun_step (hset rfl)
  | false =>
    rw [hclear rfl]
    rfl

/-- An index selects its colour, and takes two parameters. -/
lemma selectColor_indexed (idx : Nat) (rest : List Param) :
    selectColor (⟨5, false⟩ :: ⟨idx, false⟩ :: rest) = (some (.ofIndex (UInt8.ofNat idx)), 2) := by
  simp [selectColor, paramAt, byteAt]

/-- Three components select theirs, and take four. -/
lemma selectColor_trueColor (r g b : Nat) (rest : List Param) :
    selectColor (⟨2, false⟩ :: ⟨r, false⟩ :: ⟨g, false⟩ :: ⟨b, false⟩ :: rest) =
      (some ⟨.trueColor, UInt8.ofNat r, UInt8.ofNat g, UInt8.ofNat b⟩, 4) := by
  simp [selectColor, paramAt, byteAt]

/-- What `low`, `high` and `direct` do, for one of the two colours of a pen. -/
structure Selects (low high direct : Nat) (put : Pen → Color → Pen) : Prop where
  plain : ∀ pen rest idx, idx < 8 →
    sgrStep pen (low + idx) rest = (put pen (.ofIndex (UInt8.ofNat idx)), 0)
  bright : ∀ pen rest idx, idx < 8 →
    sgrStep pen (high + idx) rest = (put pen (.ofIndex (UInt8.ofNat (idx + 8))), 0)
  direct : ∀ pen rest color used, selectColor rest = (some color, used) →
    sgrStep pen direct rest = (put pen color, used)

/-- A colour that is not the default one. -/
lemma sgrRun_color {low high direct : Nat} {put : Pen → Color → Pen}
    (selects : Selects low high direct put) {color : Color} (hcolor : color.Settled) (rest : List Param)
    {pen : Pen} (hpen : put pen {} = pen) :
    sgrRun (Snapshot.colorParams low high direct color ++ rest) pen = sgrRun rest (put pen color) := by
  obtain ⟨kind, c₀, c₁, c₂⟩ := color
  cases kind with
  | default =>
    obtain rfl : c₀ = 0 := congrArg Color.c₀ hcolor
    obtain rfl : c₁ = 0 := congrArg Color.c₁ hcolor
    obtain rfl : c₂ = 0 := congrArg Color.c₂ hcolor
    rw [hpen]
    rfl
  | indexed =>
    obtain rfl : c₁ = 0 := congrArg Color.c₁ hcolor
    obtain rfl : c₂ = 0 := congrArg Color.c₂ hcolor
    simp only [Snapshot.colorParams]
    by_cases hlow : c₀.toNat < 8
    · rw [if_pos hlow, List.singleton_append, sgrRun_step (selects.plain pen rest _ hlow),
        UInt8.ofNat_toNat]
      rfl
    rw [if_neg hlow]
    by_cases hhigh : c₀.toNat < 16
    · rw [if_pos hhigh, List.singleton_append, sgrRun_step (selects.bright pen rest _ (by omega)),
        Nat.sub_add_cancel (by omega), UInt8.ofNat_toNat]
      rfl
    · rw [if_neg hhigh, List.cons_append, sgrRun_cons]
      dsimp only
      rw [List.cons_append, List.cons_append, List.nil_append,
        selects.direct _ _ _ _ (selectColor_indexed _ rest), UInt8.ofNat_toNat]
      rfl
  | trueColor =>
    simp only [Snapshot.colorParams]
    rw [List.cons_append, sgrRun_cons]
    dsimp only
    rw [List.cons_append, List.cons_append, List.cons_append, List.cons_append, List.nil_append,
      selects.direct _ _ _ _ (selectColor_trueColor _ _ _ rest), UInt8.ofNat_toNat,
      UInt8.ofNat_toNat, UInt8.ofNat_toNat]
    rfl

/-- The eight colours of a range. -/
lemma eight_cases {idx : Nat} (h : idx < 8) : idx = 0 ∨ idx = 1 ∨ idx = 2 ∨ idx = 3 ∨ idx = 4 ∨
    idx = 5 ∨ idx = 6 ∨ idx = 7 := by omega

/-- The parameters of a foreground select it. -/
lemma selects_foreground : Selects 30 90 38 fun pen color => { pen with fg := color } where
  plain pen rest idx hidx := by
    obtain rfl | rfl | rfl | rfl | rfl | rfl | rfl | rfl := eight_cases hidx
    all_goals rfl
  bright pen rest idx hidx := by
    obtain rfl | rfl | rfl | rfl | rfl | rfl | rfl | rfl := eight_cases hidx
    all_goals rfl
  direct pen rest color used h := by
    change ({ pen with fg := (selectColor rest).1.getD pen.fg }, (selectColor rest).2) = _
    rw [h]
    rfl

/-- The parameters of a background select it. -/
lemma selects_background : Selects 40 100 48 fun pen color => { pen with bg := color } where
  plain pen rest idx hidx := by
    obtain rfl | rfl | rfl | rfl | rfl | rfl | rfl | rfl := eight_cases hidx
    all_goals rfl
  bright pen rest idx hidx := by
    obtain rfl | rfl | rfl | rfl | rfl | rfl | rfl | rfl := eight_cases hidx
    all_goals rfl
  direct pen rest color used h := by
    change ({ pen with bg := (selectColor rest).1.getD pen.bg }, (selectColor rest).2) = _
    rw [h]
    rfl

/-- No parameter is a sub-parameter. -/
def Plain (params : List Param) : Prop := ∀ p ∈ params, p.colon = false

/-- Lists without subparameters make one. -/
lemma Plain.append {a b : List Param} (ha : Plain a) (hb : Plain b) : Plain (a ++ b) :=
  List.forall_mem_append.mpr ⟨ha, hb⟩

/-- An attribute has no subparameter. -/
lemma plain_flagParams (set : Bool) (value : Nat) : Plain (Snapshot.flagParams set value) := by
  cases set <;> simp [Plain, Snapshot.flagParams]

/-- A colour has no subparameter. -/
lemma plain_colorParams (low high direct : Nat) (color : Color) :
    Plain (Snapshot.colorParams low high direct color) := by
  obtain ⟨kind, c₀, c₁, c₂⟩ := color
  cases kind with
  | default => simp [Plain, Snapshot.colorParams]
  | trueColor => simp [Plain, Snapshot.colorParams]
  | indexed =>
    simp only [Snapshot.colorParams]
    repeat' split
    all_goals simp [Plain]

/-- Where no subparameter follows there is no underline style. -/
lemma underlineStyle_plain {rest : List Param} (h : Plain rest) : underlineStyle rest = none := by
  unfold underlineStyle
  split
  · next style rest' => exact absurd (h _ (List.mem_cons_self ..)) (by simp)
  · rfl

/-- A style above one is not zero. -/
lemma style_cases : ∀ b : UInt8, b.toNat ≤ 5 → b > 1 → b.toNat ≠ 0 :=
  forall_byte (by decide +kernel)

/-- A style that is neither above one nor zero is one. -/
lemma style_one : ∀ b : UInt8, ¬b > 1 → b ≠ 0 → b = 1 :=
  forall_byte (by decide +kernel)

/-- An underline with a style takes the style with it. -/
lemma sgrStep_styled {pen : Pen} {style : UInt8} {rest : List Param} (hstyle : style.toNat ≤ 5)
    (hmore : style > 1) :
    sgrStep pen 4 (⟨style.toNat, true⟩ :: rest) =
      ({ pen with attrs := { pen.attrs with underline := true }, attrEx := style }, 1) := by
  have hnonzero := style_cases style hstyle hmore
  have hselect : underlineStyle (⟨style.toNat, true⟩ :: rest) = some style.toNat := if_pos hstyle
  have hback := UInt8.ofNat_toNat (x := style)
  unfold sgrStep
  rw [hselect]
  revert hnonzero hback
  generalize style.toNat = n
  intro hnonzero hback
  cases n with
  | zero => exact absurd rfl hnonzero
  | succ n =>
    rw [← hback]
    rfl

/-- An underline without one is single. -/
lemma sgrStep_underline {pen : Pen} {rest : List Param} (hrest : Plain rest) :
    sgrStep pen 4 rest =
      ({ pen with attrs := { pen.attrs with underline := true }, attrEx := 1 }, 0) := by
  unfold sgrStep
  rw [underlineStyle_plain hrest]
  rfl

/-- The underline, with its style. -/
lemma sgrRun_underline {c pen : Pen} (hc : c.Settled) {rest : List Param} (hrest : Plain rest)
    (hpen : pen.attrs.underline = false) (hstyle : pen.attrEx = 0) :
    sgrRun (Snapshot.underlineParams c ++ rest) pen =
      sgrRun rest
        { pen with attrs := { pen.attrs with underline := c.attrs.underline }, attrEx := c.attrEx } := by
  have hset := hc.underline
  unfold Snapshot.underlineParams
  cases hunder : c.attrs.underline with
  | true =>
    rw [if_pos rfl]
    by_cases hmore : c.attrEx > 1
    · rw [if_pos hmore, List.cons_append, List.cons_append, List.nil_append, sgrRun_cons,
        sgrStep_styled hc.style hmore]
      rfl
    · have hone : c.attrEx = 1 := by
        rw [hunder] at hset
        exact style_one _ hmore (of_decide_eq_true hset.symm)
      rw [if_neg hmore, List.singleton_append, sgrRun_step (sgrStep_underline hrest), hone]
  | false =>
    have hzero : c.attrEx = 0 := by
      rw [hunder] at hset
      exact not_not.mp (of_decide_eq_false hset.symm)
    rw [if_neg Bool.false_ne_true, hzero, ← hstyle, ← hpen]
    rfl

/-- The first sequence, from whatever pen. -/
lemma sgrRun_first {c : Pen} (hc : c.Settled) (old : Pen) :
    sgrRun (Snapshot.firstList c) old = { c with bg := {}, ulIdx := 0 } := by
  obtain ⟨⟨bold, dim, italic, underline, blink, inverse, invisible, strikeThrough⟩, fg, bg, attrEx,
    ulIdx⟩ := c
  have hplain := ((((plain_flagParams blink 5).append (plain_flagParams inverse 7)).append
    (plain_flagParams invisible 8)).append (plain_flagParams strikeThrough 9)).append
    (plain_colorParams 30 90 38 fg)
  simp only [List.append_assoc] at hplain
  simp only [Snapshot.firstList, List.append_assoc]
  -- The flags one after another, from the pen that the reset leaves.
  rw [sgrRun_step (show sgrStep old 0 _ = ({}, 0) from rfl),
    @sgrRun_flag bold 1 _ {} { attrs := { bold := bold } } (by rintro rfl; rfl) (by rintro rfl; rfl),
    @sgrRun_flag dim 2 _ _ { attrs := { bold := bold, dim := dim } } (by rintro rfl; rfl)
      (by rintro rfl; rfl),
    @sgrRun_flag italic 3 _ _ { attrs := { bold := bold, dim := dim, italic := italic } }
      (by rintro rfl; rfl) (by rintro rfl; rfl),
    sgrRun_underline hc hplain rfl rfl]
  dsimp only
  rw [@sgrRun_flag blink 5 _ _
      { attrs := { bold := bold, dim := dim, italic := italic, underline := underline, blink := blink }
        attrEx := attrEx } (by rintro rfl; rfl) (by rintro rfl; rfl),
    @sgrRun_flag inverse 7 _ _
      { attrs := { bold := bold, dim := dim, italic := italic, underline := underline, blink := blink
                   inverse := inverse }
        attrEx := attrEx } (by rintro rfl; rfl) (by rintro rfl; rfl),
    @sgrRun_flag invisible 8 _ _
      { attrs := { bold := bold, dim := dim, italic := italic, underline := underline, blink := blink
                   inverse := inverse, invisible := invisible }
        attrEx := attrEx } (by rintro rfl; rfl) (by rintro rfl; rfl),
    @sgrRun_flag strikeThrough 9 _ _
      { attrs := { bold := bold, dim := dim, italic := italic, underline := underline, blink := blink
                   inverse := inverse, invisible := invisible, strikeThrough := strikeThrough }
        attrEx := attrEx } (by rintro rfl; rfl) (by rintro rfl; rfl)]
  rw [← List.append_nil (Snapshot.colorParams 30 90 38 fg)]
  exact sgrRun_color selects_foreground hc.fg [] rfl

/-- The second sequence. -/
lemma sgrRun_second {c : Pen} (hc : c.Settled) :
    sgrRun (Snapshot.secondList c) { c with bg := {}, ulIdx := 0 } = c := by
  rw [Snapshot.secondList, sgrRun_color selects_background hc.bg _ rfl]
  unfold Snapshot.underlineColorParams
  split
  · rw [sgrRun_cons]
    change sgrRun (List.drop (selectColor _).2 _)
      { c with ulIdx := underlineColor [⟨5, false⟩, ⟨c.ulIdx.toNat, false⟩] 0 } = c
    rw [underlineColor, selectColor_indexed, UInt8.ofNat_toNat]
    rfl
  · next hzero =>
    have hnone : c.ulIdx = 0 := not_not.mp hzero
    rw [← hnone]
    rfl

/-- `ApplySgr` with parameters runs them. -/
lemma applySgr_eq {params : List Param} (h : params ≠ []) (pen : Pen) :
    applySgr params pen = sgrRun params pen := by
  unfold applySgr
  rw [List.isEmpty_eq_false_iff.mpr h]
  rfl

/-- A whole sequence that selects graphic rendition. -/
lemma VtParser.feed_sgr {p : VtParser} (hbypass : p.state ≠ .bypass) (rows : Nat) {params : List Param}
    (h : Carried params) : p.feed rows (Snapshot.sgrSequence (Snapshot.writtenParams params)) =
      (p.grounded, [.applySgr params]) := by
  have hdispatch : ∀ q : VtParser, q.privateMarker = 0 →
      VtParser.dispatched (q.dispatchCsi rows 0x6D) = (q.transitionTo .ground, [.applySgr q.parseParams]) := by
    intro q hmarker
    unfold VtParser.dispatchCsi
    dsimp only
    rw [hmarker]
    rfl
  have hparse := VtParser.parseParams_plain
    (p := p.inCsi (if Snapshot.writtenParams params = [] then .csiEntry else .csiParam) 0
      (Snapshot.writtenParams params) []) (Snapshot.isParam_writtenParams params)
  have hread := hparse.trans (congrArg (List.take maxParams) h.parse)
  rw [List.take_of_length_le h.length_le] at hread
  rw [Snapshot.sgrSequence, VtParser.feed_csi hbypass (Snapshot.isParam_writtenParams params) h.length_lt
    (by decide), hdispatch _ rfl, hread]
  rfl

/-- A byte fits a parameter. -/
lemma value_byte (b : UInt8) : b.toNat ≤ 0xFFFF := Nat.le_of_lt (b.toNat_lt.trans (by decide))

/-- The parameter of an attribute does. -/
lemma values_flag {set : Bool} {value : Nat} (h : value ≤ 0xFFFF) :
    ∀ p ∈ Snapshot.flagParams set value, p.value ≤ 0xFFFF := by
  cases set <;> simp [Snapshot.flagParams, h]

/-- The parameters of a colour do. -/
lemma values_color {low high direct : Nat} (hlow : low ≤ 100) (hhigh : high ≤ 100) (hdirect : direct ≤ 100)
    (color : Color) : ∀ p ∈ Snapshot.colorParams low high direct color, p.value ≤ 0xFFFF := by
  obtain ⟨kind, c₀, c₁, c₂⟩ := color
  have h₀ := value_byte c₀
  have h₁ := value_byte c₁
  have h₂ := value_byte c₂
  cases kind with
  | default => simp [Snapshot.colorParams]
  | trueColor =>
    simp only [Snapshot.colorParams, List.forall_mem_cons]
    exact ⟨by omega, by omega, h₀, h₁, h₂, List.forall_mem_nil _⟩
  | indexed =>
    simp only [Snapshot.colorParams]
    repeat' split
    all_goals simp only [List.forall_mem_cons]
    · exact ⟨by omega, List.forall_mem_nil _⟩
    · exact ⟨by omega, List.forall_mem_nil _⟩
    · exact ⟨by omega, by omega, h₀, List.forall_mem_nil _⟩

/-- An attribute takes one parameter at most. -/
lemma length_flag (set : Bool) (value : Nat) : (Snapshot.flagParams set value).length ≤ 1 := by
  cases set with
  | true => exact Nat.le_refl 1
  | false => exact Nat.zero_le 1

/-- A colour takes five at most. -/
lemma length_color (low high direct : Nat) (color : Color) :
    (Snapshot.colorParams low high direct color).length ≤ 5 := by
  obtain ⟨kind, c₀, c₁, c₂⟩ := color
  cases kind with
  | default => exact Nat.zero_le 5
  | trueColor => exact Nat.le_refl 5
  | indexed =>
    simp only [Snapshot.colorParams]
    repeat' split
    all_goals simp only [List.length_cons, List.length_nil]
    all_goals decide

/-- What holds of the values of two lists holds of both together. -/
lemma values_append {a b : List Param} (ha : ∀ p ∈ a, p.value ≤ 0xFFFF) (hb : ∀ p ∈ b, p.value ≤ 0xFFFF) :
    ∀ p ∈ a ++ b, p.value ≤ 0xFFFF :=
  List.forall_mem_append.mpr ⟨ha, hb⟩

/-- At most fifteen parameters. -/
lemma carried_first (c : Pen) : Carried (Snapshot.firstList c) where
  head := ⟨0, _, rfl⟩
  value_le := by
    have hunderline : ∀ p ∈ Snapshot.underlineParams c, p.value ≤ 0xFFFF := by
      have hstyle := value_byte c.attrEx
      unfold Snapshot.underlineParams
      repeat' split
      all_goals simp [hstyle]
    refine List.forall_mem_cons.mpr ⟨Nat.zero_le _, ?_⟩
    refine values_append (values_append (values_append (values_append (values_append (values_append
      (values_append (values_append ?_ ?_) ?_) ?_) ?_) ?_) ?_) ?_)
      (values_color (by decide) (by decide) (by decide) _)
    case refine_4 => exact hunderline
    all_goals exact values_flag (by decide)
  length_le := by
    have hunderline : (Snapshot.underlineParams c).length ≤ 2 := by
      unfold Snapshot.underlineParams
      repeat' split
      all_goals simp
    have hbold := length_flag c.attrs.bold 1
    have hdim := length_flag c.attrs.dim 2
    have hitalic := length_flag c.attrs.italic 3
    have hblink := length_flag c.attrs.blink 5
    have hinverse := length_flag c.attrs.inverse 7
    have hinvisible := length_flag c.attrs.invisible 8
    have hstrike := length_flag c.attrs.strikeThrough 9
    have hcolor := length_color 30 90 38 c.fg
    simp only [Snapshot.firstList, List.length_cons, List.length_append, maxParams]
    omega

/-- At most eight parameters. -/
lemma carried_second {c : Pen} (h : c.bg.kind ≠ .default ∨ c.ulIdx ≠ 0) :
    Carried (Snapshot.secondList c) where
  head := by
    obtain ⟨attrs, fg, ⟨kind, c₀, c₁, c₂⟩, attrEx, ulIdx⟩ := c
    cases kind with
    | default =>
      have hul : ulIdx ≠ 0 := h.resolve_left (not_not.mpr rfl)
      simp only [Snapshot.secondList, Snapshot.colorParams, Snapshot.underlineColorParams, List.nil_append]
      rw [if_pos hul]
      exact ⟨_, _, rfl⟩
    | trueColor => exact ⟨_, _, rfl⟩
    | indexed =>
      simp only [Snapshot.secondList, Snapshot.colorParams]
      repeat' split
      all_goals exact ⟨_, _, rfl⟩
  value_le := by
    refine values_append (values_color (by decide) (by decide) (by decide) _) ?_
    have hidx := value_byte c.ulIdx
    unfold Snapshot.underlineColorParams
    split
    all_goals simp [hidx]
  length_le := by
    have hcolor := length_color 40 100 48 c.bg
    have hidx : (Snapshot.underlineColorParams c).length ≤ 3 := by
      unfold Snapshot.underlineColorParams
      split
      all_goals simp
    simp only [Snapshot.secondList, List.length_append, maxParams]
    omega

/-- Every list of a pen is one the parser carries. -/
lemma carried_sgrLists (pen c : Pen) : ∀ params ∈ Snapshot.sgrLists pen c, Carried params := by
  unfold Snapshot.sgrLists
  split
  · exact List.forall_mem_nil _
  · refine List.forall_mem_cons.mpr ⟨carried_first c, ?_⟩
    split
    · next h => exact List.forall_mem_singleton.mpr (carried_second h)
    · exact List.forall_mem_nil _

/-- Sequences one after another. -/
lemma VtParser.feed_sgrs {p : VtParser} (hground : p.state = .ground) (rows : Nat)
    {lists : List (List Param)} (h : ∀ params ∈ lists, Carried params) :
    ∃ p' : VtParser, p'.state = .ground ∧
      p.feed rows (lists.flatMap fun params => Snapshot.sgrSequence (Snapshot.writtenParams params)) =
        (p', lists.map .applySgr) := by
  induction lists generalizing p with
  | nil => exact ⟨p, hground, rfl⟩
  | cons params lists ih =>
    obtain ⟨hfirst, hrest⟩ := List.forall_mem_cons.mp h
    have hbypass : p.state ≠ .bypass := by
      rw [hground]
      decide
    obtain ⟨p', hground', hfeed⟩ := ih (p := p.grounded) rfl hrest
    refine ⟨p', hground', ?_⟩
    rw [List.flatMap_cons, VtParser.feed_append, VtParser.feed_sgr hbypass rows hfirst]
    dsimp only
    rw [hfeed]
    rfl

/-- What the sequences make of the pen. -/
lemma run_sgrLists {c : Pen} (hc : c.Settled) (g : Grid) :
    ((Snapshot.sgrLists g.pen c).map Call.applySgr).foldl Call.apply g = { g with pen := c } := by
  have hfirst : Call.apply g (.applySgr (Snapshot.firstList c)) =
      { g with pen := { c with bg := {}, ulIdx := 0 } } := by
    have hne : Snapshot.firstList c ≠ [] := List.cons_ne_nil _ _
    change ({ g with pen := applySgr (Snapshot.firstList c) g.pen } : Grid) = _
    rw [applySgr_eq hne, sgrRun_first hc]
  unfold Snapshot.sgrLists
  split
  · next hsame =>
    rw [← hsame]
    rfl
  · rw [List.map_cons, List.foldl_cons, hfirst]
    split
    · next hmore =>
      obtain ⟨value, rest, hlist⟩ := (carried_second hmore).head
      have hne : Snapshot.secondList c ≠ [] := by
        rw [hlist]
        exact List.cons_ne_nil _ _
      change ({ g with pen := applySgr (Snapshot.secondList c) { c with bg := {}, ulIdx := 0 } } : Grid) = _
      rw [applySgr_eq hne, sgrRun_second hc]
    · next hnone =>
      obtain ⟨hkind, hul⟩ := not_or.mp hnone
      have hbg : c.bg = {} := by
        have hsettled := hc.bg
        unfold Color.Settled at hsettled
        rw [not_not.mp hkind] at hsettled
        exact hsettled
      have hidx : c.ulIdx = 0 := not_not.mp hul
      rw [← hbg, ← hidx]
      rfl

/-- The sequences that `bytes` consists of, each within the limits of a parser: no more parameters
than it keeps, and no more bytes than its buffer holds. -/
def WithinLimits (bytes : Bytes) : Prop :=
  ∃ bodies : List Bytes, bytes = bodies.flatMap Snapshot.sgrSequence ∧ ∀ body ∈ bodies,
    (parseLoop body 0 false false).length ≤ maxParams ∧ body.length < maxParamBytes

/-- What `EmitSgr` writes for a cell turns the pen it was written against into that of the cell, and
changes nothing else. -/
theorem emitSgr_roundTrip {cell : Cell} (hcell : SgrReachable cell.pen) {t : Emulator}
    (hground : t.parser.state = .ground) :
    (∃ p : VtParser, p.state = .ground ∧
      t.feed (Snapshot.emitSgr t.grid.pen cell.pen) = ⟨p, { t.grid with pen := cell.pen }⟩) ∧
      WithinLimits (Snapshot.emitSgr t.grid.pen cell.pen) := by
  have hcarried := carried_sgrLists t.grid.pen cell.pen
  rw [Snapshot.emitSgr_eq]
  constructor
  · obtain ⟨p, hp, hfeed⟩ := VtParser.feed_sgrs hground t.grid.rows hcarried
    have hrows : ∀ call ∈ (Snapshot.sgrLists t.grid.pen cell.pen).map Call.applySgr,
        ∀ g' : Grid, (call.apply g').rows = g'.rows := by
      intro call hmem g'
      obtain ⟨params, -, rfl⟩ := List.mem_map.mp hmem
      rfl
    refine ⟨p, hp, ?_⟩
    have heq := Emulator.feed_eq (p := t.parser) (g := t.grid) (by rw [hfeed]; exact hrows)
    rw [hfeed] at heq
    exact heq.trans (congrArg (Emulator.mk p) (run_sgrLists hcell.settled t.grid))
  · refine ⟨(Snapshot.sgrLists t.grid.pen cell.pen).map Snapshot.writtenParams, ?_, ?_⟩
    · rw [List.flatMap_map]
    · intro body hmem
      obtain ⟨params, hparams, rfl⟩ := List.mem_map.mp hmem
      have h := hcarried params hparams
      rw [h.parse]
      exact ⟨h.length_le, h.length_lt⟩

/-- A bold cell with a curly underline of palette colour 9 on a true-colour background, after a fresh
pen. -/
theorem emitSgr_roundTrip_curly :
    ∃ p : VtParser, p.state = .ground ∧
      (Emulator.start (.allocate 4 6 0)).feed (asciiBytes "\x1b[0;1;4:3m\x1b[48;2;1;2;3;58;5;9m") =
        ⟨p, { Grid.allocate 4 6 0 with
              pen := { attrs := { bold := true, underline := true }, bg := ⟨.trueColor, 1, 2, 3⟩, attrEx := 3
                       ulIdx := 9 } }⟩ := by
  have hreach := SgrReachable.apply [⟨1, false⟩, ⟨4, false⟩, ⟨3, true⟩, ⟨48, false⟩, ⟨2, false⟩, ⟨1, false⟩,
    ⟨2, false⟩, ⟨3, false⟩, ⟨58, false⟩, ⟨5, false⟩, ⟨9, false⟩] .fresh
  exact (@emitSgr_roundTrip { pen := _ } hreach (.start (.allocate 4 6 0)) rfl).1

end Zet.Terminal
