import Zet.Lib.Run
import Zet.Terminal.Painting

/-!
# The degrade ladder

`Snapshot::Create` gives the first encoding on the ladder that fits the cap. That its binary searches
find the most history lines and the fewest cropped rows rests on the sizes of
`Zet.Terminal.EncodedSize`; that it fails only when the row of the cursor alone does not fit, too. What
the dry run counted is what is then written (`EscWriter.encodeAll_counting`,
`EscWriter.encodeAll_storing`).
-/

namespace Zet.Terminal.Snapshot
open Zet.Core Zet.Lib

namespace EscWriter

/-- A dry run counts the bytes. -/
lemma writeAll_counting (bytes : Bytes) (cap pos : Nat) :
    (⟨[], cap, pos, false, true⟩ : EscWriter).writeAll bytes =
      ⟨[], cap, pos + bytes.length, false, true⟩ := by
  induction bytes generalizing pos with
  | nil => rfl
  | cons b bytes ih =>
    refine (ih (pos + 1)).trans ?_
    rw [List.length_cons, Nat.add_assoc, Nat.add_comm 1]

/-- A buffer with room stores them. -/
lemma writeAll_storing (bytes buf : Bytes) {cap : Nat} (fits : buf.length + bytes.length ≤ cap) :
    (⟨buf, cap, buf.length, false, false⟩ : EscWriter).writeAll bytes =
      ⟨buf ++ bytes, cap, (buf ++ bytes).length, false, false⟩ := by
  induction bytes generalizing buf with
  | nil => rw [List.append_nil]; rfl
  | cons b bytes ih =>
    rw [List.length_cons] at fits
    have hbyte : (⟨buf, cap, buf.length, false, false⟩ : EscWriter).writeByte b =
        ⟨buf ++ [b], cap, (buf ++ [b]).length, false, false⟩ := by
      rw [writeByte, if_neg (by simp), if_pos (by dsimp only; omega)]
      simp
    rw [writeAll, List.foldl_cons, hbyte]
    refine (ih (buf ++ [b]) (by rw [List.length_append, List.length_singleton]; omega)).trans ?_
    simp

/-- The dry run counts the bytes. -/
lemma encodeAll_counting (g : Grid) (ep : EncodeParams) (cap : Nat) :
    measureEncoding g ep cap = encodedSize g ep := by
  rw [measureEncoding, encodeAll, counting, writeAll_counting, writeAll_counting, encodedSize,
    Snapshot.encodeAll, List.length_append]
  exact congrArg (· + _) (Nat.zero_add _)

/-- A buffer of that size holds them, and does not overflow. -/
lemma encodeAll_storing (g : Grid) (ep : EncodeParams) :
    (storing (encodedSize g ep)).encodeAll g ep =
      (⟨Snapshot.encodeAll g ep, encodedSize g ep, encodedSize g ep, false, false⟩,
        (encodeScrollback g ep).length) := by
  have hsize : encodedSize g ep = (encodeScrollback g ep).length + (encodeScreen g ep).length := by
    rw [encodedSize, Snapshot.encodeAll, List.length_append]
  have hfirst : (storing (encodedSize g ep)).writeAll (encodeScrollback g ep) =
      ⟨encodeScrollback g ep, encodedSize g ep, (encodeScrollback g ep).length, false, false⟩ :=
    writeAll_storing (encodeScrollback g ep) [] (by rw [List.length_nil]; omega)
  have hsecond := writeAll_storing (encodeScreen g ep) (encodeScrollback g ep)
    (show (encodeScrollback g ep).length + (encodeScreen g ep).length ≤ encodedSize g ep by omega)
  rw [encodeAll, hfirst]
  dsimp only
  rw [hsecond, List.length_append, ← hsize]
  rfl

end EscWriter

/-- The first rung of the ladder that fits the cap. -/
inductive Chosen (g : Grid) (cap : Nat) : EncodeParams → Degradation → Prop
  | whole (fits : encodedSize g (newest g g.historySize) ≤ cap) :
    Chosen g cap (newest g g.historySize) .none
  | historyTrimmed (n : Nat) (fewer : n < g.historySize) (fits : encodedSize g (newest g n) ≤ cap)
    (most : ∀ m, n < m → m ≤ g.historySize → cap < encodedSize g (newest g m)) :
    Chosen g cap (newest g n) .historyTrimmed
  | colors256 (history : ∀ n ≤ g.historySize, cap < encodedSize g (newest g n))
    (fits : encodedSize g (inColors g .indexed256) ≤ cap) :
    Chosen g cap (inColors g .indexed256) .colors256
  | noColor (history : ∀ n ≤ g.historySize, cap < encodedSize g (newest g n))
    (indexed : cap < encodedSize g (inColors g .indexed256))
    (fits : encodedSize g (inColors g .none) ≤ cap) : Chosen g cap (inColors g .none) .noColor
  | rowsCropped (top bot : Nat) (history : ∀ n ≤ g.historySize, cap < encodedSize g (newest g n))
    (indexed : cap < encodedSize g (inColors g .indexed256))
    (none : cap < encodedSize g (inColors g .none))
    (above : top ≤ g.cursorRow) (below : g.cursorRow + bot < g.rows)
    (order : 0 < bot → top = g.cursorRow) (fits : encodedSize g (cropped g top bot) ≤ cap)
    (fewest : ∀ top' bot', top' ≤ g.cursorRow → g.cursorRow + bot' < g.rows →
      (0 < bot' → top' = g.cursorRow) → top' + bot' < top + bot →
        cap < encodedSize g (cropped g top' bot')) :
    Chosen g cap (cropped g top bot) .rowsCropped

section
variable {g : Grid} {cap : Nat}

/-- Whether an encoding fits the cap. -/
def fitsCap (g : Grid) (cap : Nat) (ep : EncodeParams) : Bool := encodedSize g ep ≤ cap

/-- An encoding fits where its size is within the cap. -/
lemma fitsCap_iff {ep : EncodeParams} : fitsCap g cap ep = true ↔ encodedSize g ep ≤ cap :=
  decide_eq_true_iff

/-- A step is chosen where it fits. -/
lemma choose_eq_some {fits : EncodeParams → Bool} {ep : EncodeParams} {deg : Degradation}
    {x : EncodeParams × Degradation} : choose fits ep deg = some x ↔ fits ep = true ∧ (ep, deg) = x := by
  unfold choose
  split
  · next h => simp [h]
  · next h => simp [h]

/-- A step gives nothing that does not fit. -/
lemma choose_fits {fits : EncodeParams → Bool} {ep : EncodeParams} {deg : Degradation}
    {x : EncodeParams × Degradation} (h : choose fits ep deg = some x) : fits x.1 = true := by
  obtain ⟨hfits, rfl⟩ := choose_eq_some.mp h
  exact hfits

/-- Wherever the cursor is, the ladder gives nothing that does not fit. -/
lemma ladder_fits {fits : EncodeParams → Bool} {x : EncodeParams × Degradation}
    (h : ladder fits g = some x) : fits x.1 = true := by
  unfold ladder trimHistory cropRows at h
  simp only [Option.or_eq_some_iff] at h
  rcases h with hwhole | ⟨-, htrim | ⟨-, hindexed | ⟨-, hnone | ⟨-, habove | ⟨-, hbelow⟩⟩⟩⟩⟩
  · exact choose_fits hwhole
  · split at htrim
    · exact choose_fits htrim
    · cases htrim
  · exact choose_fits hindexed
  · exact choose_fits hnone
  · exact choose_fits habove
  · split at hbelow
    · exact choose_fits hbelow
    · cases hbelow

/-- What is chosen fits. -/
lemma Chosen.fits {ep : EncodeParams} {deg : Degradation} (h : Chosen g cap ep deg) :
    encodedSize g ep ≤ cap := by
  cases h <;> assumption

/-- What is chosen is no smaller than the row of the cursor alone, without colours. -/
lemma Chosen.least {ep : EncodeParams} {deg : Degradation} (h : Chosen g cap ep deg) :
    encodedSize g (cropped g g.cursorRow (g.rows - g.cursorRow - 1)) ≤ encodedSize g ep := by
  obtain ⟨hnone, hindexed, hfull⟩ := encodedSize_least g (Nat.le_refl g.historySize) g.cursorRow
    (g.rows - g.cursorRow - 1)
  cases h with
  | whole => omega
  | historyTrimmed n fewer =>
    obtain ⟨-, -, hnewest⟩ := encodedSize_least g (Nat.le_of_lt fewer) g.cursorRow
      (g.rows - g.cursorRow - 1)
    omega
  | colors256 => omega
  | noColor => omega
  | rowsCropped top bot _ _ _ above below => exact encodedSize_cropped g above (by omega)

end

/-- The outcome of `Create`, by what the ladder found. -/
lemma create_eq (buffer snapshot : Bool) (g : Grid) (maxBytes : Nat) :
    create buffer snapshot g maxBytes =
      match ladder (fitsCap g (effectiveCap maxBytes)) g with
      | none => .error .snapshotTooLarge
      | some (chosen, deg) =>
        if buffer && snapshot then
          .ok ⟨encodeAll g chosen, (encodeScrollback g chosen).length, deg, g.possiblyDiverged,
            g.isAltScreen⟩
        else .error .allocationFailed := by
  have hfits : (fun ep => decide (measureEncoding g ep (effectiveCap maxBytes) ≤ effectiveCap maxBytes)) =
      fitsCap g (effectiveCap maxBytes) := by
    funext ep
    rw [EscWriter.encodeAll_counting]
    rfl
  unfold create
  dsimp only
  rw [hfits]
  cases ladder (fitsCap g (effectiveCap maxBytes)) g with
  | none => rfl
  | some x =>
    obtain ⟨chosen, deg⟩ := x
    dsimp only
    rw [EscWriter.encodeAll_counting, EscWriter.encodeAll_storing]
    dsimp only
    rw [encodedSize, List.take_length]
    cases buffer <;> cases snapshot <;> rfl

/-- Whatever the grid, what `Create` gives is within the cap, and never empty. -/
lemma create_bounds {buffer snapshot : Bool} {g : Grid} {maxBytes : Nat} {s : Snapshot}
    (h : create buffer snapshot g maxBytes = .ok s) :
    s.bytes ≠ [] ∧ s.bytes.length ≤ effectiveCap maxBytes := by
  rw [create_eq] at h
  split at h
  · cases h
  · next chosen deg hladder =>
    split at h
    · cases h
      exact ⟨by simp [encodeAll, encodeScrollback, preamble], fitsCap_iff.mp (ladder_fits hladder)⟩
    · cases h

end Zet.Terminal.Snapshot
