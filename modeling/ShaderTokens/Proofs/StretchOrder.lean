import ShaderTokens.Editor.SemanticTokens
import ShaderTokens.Proofs.SourcePlace

/-!
# Stretches in order

A list of stretches can be placed between two places of a text.  Lists that are placed one behind
the other follow each other without overlap, and a place is covered by the list that it falls to
only.
-/

namespace ShaderTokens.Editor

/-! ## Places of stretches -/

namespace Stretch

def first (stretch : Stretch) : ℤ ×ₗ ℤ := toLex (stretch.line, stretch.character)

def past (stretch : Stretch) : ℤ ×ₗ ℤ := toLex (stretch.line, stretch.character + stretch.length)

def Covers (stretch : Stretch) (line character : Int) : Prop :=
  stretch.line = line ∧ stretch.character ≤ character ∧
    character < stretch.character + stretch.length

instance (stretch : Stretch) (line character : Int) : Decidable (stretch.Covers line character) :=
  inferInstanceAs (Decidable (_ ∧ _))

def Precedes (stretch following : Stretch) : Prop :=
  stretch.line < following.line ∨
    stretch.line = following.line ∧
      stretch.character + stretch.length ≤ following.character

theorem precedes_iff (stretch following : Stretch) :
    stretch.Precedes following ↔ stretch.past ≤ following.first := by
  rw [past, first, Prod.Lex.toLex_le_toLex]
  rfl

theorem covers_iff (stretch : Stretch) (line character : Int) :
    stretch.Covers line character ↔
      stretch.first ≤ toLex (line, character) ∧ toLex (line, character) < stretch.past := by
  simp only [Covers, first, past, Prod.Lex.toLex_le_toLex, Prod.Lex.toLex_lt_toLex]
  omega

theorem first_le_past (stretch : Stretch) : stretch.first ≤ stretch.past := by
  rw [first, past, Prod.Lex.toLex_le_toLex]
  right
  exact ⟨rfl, by simp only; omega⟩

end Stretch

def Stretch.IsPartOf (stretch : Stretch) (position : Position) (text : List Char) : Prop :=
  ∃ before visible after, text = before ++ (visible ++ after) ∧ '\n' ∉ visible ∧ visible ≠ [] ∧
    stretch.first = (position.after before).place ∧ stretch.length = visible.length

theorem Stretch.IsPartOf.append {stretch : Stretch} {position : Position} {front text : List Char}
    (h : stretch.IsPartOf (position.after front) text) (back : List Char) :
    stretch.IsPartOf position (front ++ (text ++ back)) := by
  obtain ⟨before, visible, after, rfl, hfeed, hvisible, hfirst, hlength⟩ := h
  refine ⟨front ++ before, visible, after ++ back, by simp, hfeed, hvisible, ?_, hlength⟩
  rw [hfirst, Position.after_append]

inductive Fits : ℤ ×ₗ ℤ → ℤ ×ₗ ℤ → List Stretch → Prop
  | done {start stop : ℤ ×ₗ ℤ} (hle : start ≤ stop) : Fits start stop []
  | next {start stop : ℤ ×ₗ ℤ} {stretch : Stretch} {others : List Stretch}
      (hfirst : start ≤ stretch.first) (hothers : Fits stretch.past stop others) :
      Fits start stop (stretch :: others)

namespace Fits

variable {start middle stop : ℤ ×ₗ ℤ} {stretches others : List Stretch}

theorem of_le (h : Fits middle stop stretches) (hle : start ≤ middle) :
    Fits start stop stretches := by
  cases h with
  | done hstop => exact .done (hle.trans hstop)
  | next hfirst hothers => exact .next (hle.trans hfirst) hothers

theorem append (h : Fits start middle stretches) (hothers : Fits middle stop others) :
    Fits start stop (stretches ++ others) := by
  induction h with
  | done hle => exact hothers.of_le hle
  | next hfirst _ ih => exact .next hfirst (ih hothers)

theorem start_le (h : Fits start stop stretches) :
    ∀ stretch ∈ stretches, start ≤ stretch.first := by
  induction h with
  | done => simp
  | @next _ _ stretch _ hfirst _ ih =>
      refine List.forall_mem_cons.mpr ⟨hfirst, fun following hfollowing => ?_⟩
      exact (hfirst.trans stretch.first_le_past).trans (ih following hfollowing)

theorem le_stop (h : Fits start stop stretches) : ∀ stretch ∈ stretches, stretch.past ≤ stop := by
  induction h with
  | done => simp
  | next _ hothers ih =>
      refine List.forall_mem_cons.mpr ⟨?_, ih⟩
      cases hothers with
      | done hle => exact hle
      | next hfirst hothers =>
          exact (hfirst.trans (Stretch.first_le_past _)).trans (ih _ List.mem_cons_self)

theorem pairwise_precedes (h : Fits start stop stretches) :
    stretches.Pairwise Stretch.Precedes := by
  induction h with
  | done => exact .nil
  | next _ hothers ih =>
      refine .cons (fun following hfollowing => ?_) ih
      exact (Stretch.precedes_iff _ _).mpr (hothers.start_le following hfollowing)

end Fits

/-! ## The colours of a character -/

def coloursAt (line character : Int) (stretches : List Stretch) : List (Nat × Nat) :=
  (stretches.filter (·.Covers line character)).map fun stretch => (stretch.type, stretch.modifiers)

section Colours

variable {line character : Int}

@[simp] theorem coloursAt_append (line character : Int) (first second : List Stretch) :
    coloursAt line character (first ++ second) =
      coloursAt line character first ++ coloursAt line character second := by
  simp [coloursAt]

@[simp] theorem coloursAt_singleton (line character : Int) (stretch : Stretch) :
    coloursAt line character [stretch] =
      if stretch.Covers line character then [(stretch.type, stretch.modifiers)] else [] := by
  by_cases hcovers : stretch.Covers line character <;> simp [coloursAt, hcovers]

theorem coloursAt_eq_nil {stretches : List Stretch}
    (h : ∀ stretch ∈ stretches, ¬ stretch.Covers line character) :
    coloursAt line character stretches = [] := by
  simpa [coloursAt] using h

variable {start stop : ℤ ×ₗ ℤ} {stretches : List Stretch}

theorem Fits.coloursAt_of_lt (h : Fits start stop stretches)
    (hlt : toLex (line, character) < start) : coloursAt line character stretches = [] :=
  coloursAt_eq_nil fun stretch hstretch hcovers =>
    (hlt.trans_le (h.start_le stretch hstretch)).not_ge ((stretch.covers_iff _ _).mp hcovers).1

theorem Fits.coloursAt_of_le (h : Fits start stop stretches)
    (hle : stop ≤ toLex (line, character)) : coloursAt line character stretches = [] :=
  coloursAt_eq_nil fun stretch hstretch hcovers =>
    ((h.le_stop stretch hstretch).trans hle).not_gt ((stretch.covers_iff _ _).mp hcovers).2

end Colours

end ShaderTokens.Editor
