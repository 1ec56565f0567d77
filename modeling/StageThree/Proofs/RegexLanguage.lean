import Mathlib.Data.List.Forall2
import Mathlib.Logic.Relation
import StageThree.Regex.Basic

/-!
What the parts of an anchored regular expression match. How an expression moves through a text
shows in what is left of the text, so an expression has a language: the pieces that it takes off
the front. A sequence takes one piece after the other, and between the two anchors it has to take
the whole text (`Regex.isMatch_anchored_iff`).

A repetition collects cursors round by round. Each round begins only where the last one came to
something new, and each step shortens what is left, so that in the end no step leaves what was
collected (`Regex.closed_reach`).
-/

namespace StageThree

/-! ### Cursors -/

namespace Cursor

variable {set : CharSet} {cursor after : Cursor} {cursors : List Cursor}

theorem rest_of_step? (h : step? set cursor = some after) :
    ∃ c, set.contains c = true ∧ cursor.rest = c :: after.rest := by
  unfold step? at h
  split at h
  · cases h
  · next c rest hrest =>
    split at h
    · next hc =>
      obtain rfl := Option.some.inj h
      exact ⟨c, hc, hrest⟩
    · cases h

theorem exists_step? {c : Char} {rest : List Char} (hc : set.contains c = true)
    (hrest : cursor.rest = c :: rest) :
    ∃ after, step? set cursor = some after ∧ after.rest = rest :=
  ⟨⟨cursor.offset + 1, some c, rest⟩, by simp [step?, hrest, hc], rfl⟩

theorem le_longest (h : cursor ∈ cursors) : cursor.rest.length ≤ longest cursors := by
  suffices ∀ bound, bound ≤ cursors.foldl (fun n cursor => max n cursor.rest.length) bound ∧
      ∀ cursor ∈ cursors, cursor.rest.length ≤
        cursors.foldl (fun n cursor => max n cursor.rest.length) bound from (this 0).2 cursor h
  clear h
  induction cursors with
  | nil => simp
  | cons first rest ih =>
      intro bound
      obtain ⟨hbound, hrest⟩ := ih (max bound first.rest.length)
      refine ⟨Nat.le_trans (Nat.le_max_left ..) hbound, List.forall_mem_cons.mpr ⟨?_, hrest⟩⟩
      exact Nat.le_trans (Nat.le_max_right ..) hbound

theorem filter_onward (offset : Nat) (c : Char) (text : List Char) :
    (onward offset (some c) text).filter (fun cursor => Look.textStart.holds cursor) = [] := by
  induction text generalizing offset c with
  | nil => rfl
  | cons d rest ih =>
      rw [onward, List.filter_cons_of_neg (by simp [Look.holds])]
      exact ih (offset + 1) d

theorem filter_all (text : List Char) :
    (all text).filter (fun cursor => Look.textStart.holds cursor) = [start text] := by
  cases text with
  | nil => rfl
  | cons c rest =>
      rw [all, onward, List.filter_cons_of_pos rfl, filter_onward]
      rfl

end Cursor

namespace Regex

/-! ### Repetition -/

section Reach

variable {step : List Cursor → List Cursor} {leads : Cursor → Cursor → Prop}
  {known frontier found : List Cursor} {rounds : Nat} {cursor after : Cursor}

theorem mem_fresh_iff :
    cursor ∈ (found.filter fun cursor => !known.contains cursor).eraseDups ↔
      cursor ∈ found ∧ cursor ∉ known := by
  simp

theorem mem_reach_of_mem (h : cursor ∈ known) : cursor ∈ reach step rounds known frontier := by
  induction rounds generalizing known frontier with
  | zero => exact h
  | succ rounds ih =>
      simp only [reach]
      split
      · exact h
      · exact ih (List.mem_append_left _ h)

theorem leads_of_mem_reach
    (hstep : ∀ cursors after, after ∈ step cursors ↔ ∃ cursor ∈ cursors, leads cursor after)
    (hfrontier : frontier ⊆ known) (h : after ∈ reach step rounds known frontier) :
    ∃ cursor ∈ known, Relation.ReflTransGen leads cursor after := by
  induction rounds generalizing known frontier with
  | zero => exact ⟨after, h, .refl⟩
  | succ rounds ih =>
      simp only [reach] at h
      split at h
      · exact ⟨after, h, .refl⟩
      · obtain ⟨cursor, hcursor, hleads⟩ := ih (List.subset_append_right _ _) h
        rcases List.mem_append.mp hcursor with hknown | hfresh
        · exact ⟨cursor, hknown, hleads⟩
        · obtain ⟨first, hfirst, hlead⟩ := (hstep _ _).mp (mem_fresh_iff.mp hfresh).1
          exact ⟨first, hfrontier hfirst, .head hlead hleads⟩

theorem closed_reach
    (hstep : ∀ cursors after, after ∈ step cursors ↔ ∃ cursor ∈ cursors, leads cursor after)
    (hshorter : ∀ cursor after, leads cursor after → after.rest.length < cursor.rest.length)
    (hrounds : ∀ cursor ∈ frontier, cursor.rest.length < rounds)
    (hclosed : ∀ cursor ∈ known, cursor ∉ frontier → ∀ after, leads cursor after → after ∈ known)
    (h : cursor ∈ reach step rounds known frontier) (hleads : leads cursor after) :
    after ∈ reach step rounds known frontier := by
  induction rounds generalizing known frontier with
  | zero =>
      have hnone : cursor ∉ frontier := fun hmem => Nat.not_lt_zero _ (hrounds _ hmem)
      exact hclosed cursor h hnone after hleads
  | succ rounds ih =>
      -- one step from what is known leads to what is known or fresh
      have hnext : ∀ cursor ∈ known, ∀ after, leads cursor after → after ∉ known →
          after ∈ ((step frontier).filter fun cursor => !known.contains cursor).eraseDups := by
        intro cursor hcursor after hleads hnew
        have hmem : cursor ∈ frontier := by
          by_contra hnot
          exact hnew (hclosed cursor hcursor hnot after hleads)
        exact mem_fresh_iff.mpr ⟨(hstep _ _).mpr ⟨cursor, hmem, hleads⟩, hnew⟩
      simp only [reach] at h ⊢
      split at h
      · next hempty =>
        rw [if_pos hempty]
        by_contra hnew
        have hfresh := hnext cursor h after hleads hnew
        rw [List.isEmpty_iff.mp hempty] at hfresh
        exact List.not_mem_nil hfresh
      · next hempty =>
        rw [if_neg hempty]
        refine ih (fun fresh hfresh => ?_) (fun cursor hcursor hnot after hleads => ?_) h
        · obtain ⟨first, hfirst, hlead⟩ := (hstep _ _).mp (mem_fresh_iff.mp hfresh).1
          exact Nat.lt_of_lt_of_le (hshorter _ _ hlead) (Nat.le_of_lt_succ (hrounds _ hfirst))
        · have hknown := (List.mem_append.mp hcursor).resolve_right hnot
          by_cases hnew : after ∈ known
          · exact List.mem_append_left _ hnew
          · exact List.mem_append_right _ (hnext cursor hknown after hleads hnew)

/-- Repetition of single characters collects all that its steps lead to. -/
theorem mem_advance_repeated_iff {set : CharSet} {cursors : List Cursor} :
    after ∈ (repeated (one set) 0 none).advance cursors ↔
      ∃ cursor ∈ cursors,
        Relation.ReflTransGen (fun a b => Cursor.step? set a = some b) cursor after := by
  have hstep : ∀ cursors after, after ∈ (one set).advance cursors ↔
      ∃ cursor ∈ cursors, Cursor.step? set cursor = some after := fun _ _ => List.mem_filterMap
  have hshorter : ∀ a b, Cursor.step? set a = some b → b.rest.length < a.rest.length := by
    intro a b h
    obtain ⟨c, -, hrest⟩ := Cursor.rest_of_step? h
    simp [hrest]
  simp only [advance, Nat.zero_min, times]
  constructor
  · exact leads_of_mem_reach hstep (List.Subset.refl _)
  · rintro ⟨cursor, hcursor, hleads⟩
    induction hleads with
    | refl => exact mem_reach_of_mem hcursor
    | tail _ hlead ih =>
        exact closed_reach hstep hshorter
          (fun _ hmem => Nat.lt_succ_of_le (Cursor.le_longest hmem))
          (fun _ hmem hnot => absurd hmem hnot) ih hlead

end Reach

/-! ### Languages -/

/-- Whether the pieces that an expression takes off the front of a text are those of a language. -/
def Takes (regex : Regex) (language : List Char → Prop) : Prop :=
  ∀ cursors rest, (∃ after ∈ regex.advance cursors, after.rest = rest) ↔
    ∃ cursor ∈ cursors, ∃ piece, language piece ∧ cursor.rest = piece ++ rest

theorem takes_one (set : CharSet) :
    Takes (one set) fun piece => ∃ c, set.contains c = true ∧ piece = [c] := by
  intro cursors rest
  simp only [advance, List.mem_filterMap]
  constructor
  · rintro ⟨after, ⟨cursor, hcursor, hstep⟩, rfl⟩
    obtain ⟨c, hc, hrest⟩ := Cursor.rest_of_step? hstep
    exact ⟨cursor, hcursor, [c], ⟨c, hc, rfl⟩, hrest⟩
  · rintro ⟨cursor, hcursor, _, ⟨c, hc, rfl⟩, hrest⟩
    obtain ⟨after, hstep, hafter⟩ := Cursor.exists_step? hc hrest
    exact ⟨after, ⟨cursor, hcursor, hstep⟩, hafter⟩

/-- Steps take one character of the set after the other. -/
theorem rest_of_steps {set : CharSet} {cursor after : Cursor}
    (h : Relation.ReflTransGen (fun a b => Cursor.step? set a = some b) cursor after) :
    ∃ piece, (∀ c ∈ piece, set.contains c = true) ∧ cursor.rest = piece ++ after.rest := by
  induction h using Relation.ReflTransGen.head_induction_on with
  | refl => exact ⟨[], by simp, rfl⟩
  | head hstep _ ih =>
      obtain ⟨piece, hpiece, hrest⟩ := ih
      obtain ⟨c, hc, hcursor⟩ := Cursor.rest_of_step? hstep
      exact ⟨c :: piece, List.forall_mem_cons.mpr ⟨hc, hpiece⟩, by rw [hcursor, hrest]; rfl⟩

theorem exists_steps {set : CharSet} {cursor : Cursor} {piece rest : List Char}
    (hpiece : ∀ c ∈ piece, set.contains c = true) (hrest : cursor.rest = piece ++ rest) :
    ∃ after, Relation.ReflTransGen (fun a b => Cursor.step? set a = some b) cursor after ∧
      after.rest = rest := by
  induction piece generalizing cursor with
  | nil => exact ⟨cursor, .refl, hrest⟩
  | cons c piece ih =>
      obtain ⟨hc, hpiece⟩ := List.forall_mem_cons.mp hpiece
      obtain ⟨next, hstep, hnext⟩ := Cursor.exists_step? hc hrest
      obtain ⟨after, hsteps, hafter⟩ := ih hpiece hnext
      exact ⟨after, .head hstep hsteps, hafter⟩

theorem takes_repeated_one (set : CharSet) :
    Takes (repeated (one set) 0 none) fun piece => ∀ c ∈ piece, set.contains c = true := by
  intro cursors rest
  simp only [mem_advance_repeated_iff]
  constructor
  · rintro ⟨after, ⟨cursor, hcursor, hsteps⟩, rfl⟩
    exact ⟨cursor, hcursor, rest_of_steps hsteps⟩
  · rintro ⟨cursor, hcursor, piece, hpiece, hrest⟩
    obtain ⟨after, hsteps, hafter⟩ := exists_steps hpiece hrest
    exact ⟨after, ⟨cursor, hcursor, hsteps⟩, hafter⟩

/-- A sequence takes a piece for each of its parts. -/
theorem takes_seqAll {α : Type} {regexOf : α → Regex} {languageOf : α → List Char → Prop}
    (h : ∀ part, Takes (regexOf part) (languageOf part)) (parts : List α) :
    Takes (seqAll (parts.map regexOf)) fun text =>
      ∃ pieces, List.Forall₂ languageOf parts pieces ∧ pieces.flatten = text := by
  induction parts with
  | nil =>
      intro cursors rest
      simp [seqAll, advance]
  | cons part parts ih =>
      intro cursors rest
      simp only [List.map_cons, seqAll, advance, ih _ rest]
      constructor
      · rintro ⟨middle, hmiddle, _, ⟨pieces, hpieces, rfl⟩, hrest⟩
        obtain ⟨cursor, hcursor, piece, hpiece, hcur⟩ := (h part _ _).mp ⟨middle, hmiddle, rfl⟩
        refine ⟨cursor, hcursor, _, ⟨piece :: pieces, .cons hpiece hpieces, rfl⟩, ?_⟩
        rw [hcur, hrest, List.flatten_cons, List.append_assoc]
      · rintro ⟨cursor, hcursor, _, ⟨_, hall, rfl⟩, hrest⟩
        obtain ⟨piece, pieces, hpiece, hpieces, rfl⟩ := List.forall₂_cons_left_iff.mp hall
        rw [List.flatten_cons, List.append_assoc] at hrest
        obtain ⟨middle, hmiddle, hmid⟩ := (h part _ _).mpr ⟨cursor, hcursor, _, hpiece, hrest⟩
        exact ⟨middle, hmiddle, _, ⟨_, hpieces, rfl⟩, hmid⟩

theorem advance_seqAll_concat (regexes : List Regex) (last : Regex) (cursors : List Cursor) :
    (seqAll (regexes ++ [last])).advance cursors =
      last.advance ((seqAll regexes).advance cursors) := by
  induction regexes generalizing cursors with
  | nil => simp [seqAll, advance]
  | cons first rest ih => simp [seqAll, advance, ih]

/-- Between the anchors an expression has to take the whole text. -/
theorem isMatch_anchored_iff {regexes : List Regex} {language : List Char → Prop}
    (h : Takes (seqAll regexes) language) (text : String) :
    (seqAll (.look .textStart :: regexes ++ [.look .textEnd])).isMatch text = true ↔
      language text.toList := by
  have hstart : (look .textStart).advance (Cursor.all text.toList) = [Cursor.start text.toList] :=
    Cursor.filter_all text.toList
  rw [isMatch, List.cons_append, seqAll, advance, hstart, advance_seqAll_concat, advance]
  have hends : (∃ after ∈ (seqAll regexes).advance [Cursor.start text.toList], after.rest = []) ↔
      language text.toList := by
    rw [h]
    simp [Cursor.start]
  rw [← hends]
  simp [Look.holds]

end Regex

end StageThree
