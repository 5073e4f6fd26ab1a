import Mathlib.Tactic.SplitIfs
import PromptTemplate.Proofs.Tree.Draft
import PromptTemplate.Proofs.Tree.Stack

namespace PromptTemplate

def Layer.toOpen (l : Layer) : OpenBlock :=
  ⟨l.opening, l.span, l.hasAlternate⟩

namespace Draft

def opened (d : Draft) : List OpenBlock :=
  d.layers.map Layer.toOpen

theorem opened_add (d : Draft) (piece : Body → Body) : (d.add piece).opened = d.opened := by
  unfold add opened
  cases d.layers with
  | nil => rfl
  | cons l ls =>
      by_cases helse : l.hasAlternate <;> simp [Layer.add, Layer.toOpen, helse]

variable {m : Nat} {ts : List Token}

theorem opened_step (d : Draft) (t : Token) :
    (step m d t).map opened = OpenBlock.step m d.opened t := by
  have hlength : d.opened.length = d.layers.length := by simp [opened]
  cases t with
  | text content s => exact congrArg Except.ok (opened_add d _)
  | tag tag s =>
      cases tag with
      | «variable» key => exact congrArg Except.ok (opened_add d _)
      | opening o =>
          by_cases hlimit : m ≤ d.layers.length
          · simp [step, OpenBlock.step, hlength, hlimit, Except.map]
          · simp [step, OpenBlock.step, hlimit, Except.map, opened, Layer.toOpen]
      | otherwise =>
          cases hlayers : d.layers with
          | nil => simp [step, OpenBlock.step, opened, hlayers, Except.map]
          | cons l ls =>
              by_cases helse : l.hasAlternate <;>
                simp [step, OpenBlock.step, opened, hlayers, helse, Layer.toOpen, Except.map]
      | closing helper =>
          cases hlayers : d.layers with
          | nil => simp [step, OpenBlock.step, opened, hlayers, Except.map]
          | cons l ls =>
              by_cases hhelper : l.opening.helper = helper
              · have hopened : OpenBlock.step m d.opened (.tag (.closing helper) s) =
                    .ok (ls.map Layer.toOpen) := by
                  simp [OpenBlock.step, opened, hlayers, Layer.toOpen, hhelper]
                rw [hopened]
                simp only [step, hlayers, hhelper, if_true]
                exact congrArg Except.ok (opened_add { d with layers := ls } _)
              · simp [step, OpenBlock.step, opened, hlayers, hhelper, Layer.toOpen, Except.map]

theorem opened_run (d : Draft) (ts : List Token) :
    (run m d ts).map opened = OpenBlock.run m d.opened ts := by
  induction ts generalizing d with
  | nil => rfl
  | cons t ts ih =>
      rw [run, OpenBlock.run, ← opened_step]
      cases step m d t with
      | ok d => exact ih d
      | error e => rfl

theorem step_mono {limit limit' : Int} (hle : limit ≤ limit') {d d' : Draft} {t : Token}
    (h : step limit d t = .ok d') : step limit' d t = .ok d' := by
  unfold step at h ⊢
  split <;> try exact h
  split_ifs at h ⊢ with hlimit hlimit'
  · omega
  · exact h

theorem run_mono {limit limit' : Int} (hle : limit ≤ limit') {d d' : Draft} {ts : List Token}
    (h : run limit d ts = .ok d') : run limit' d ts = .ok d' := by
  induction ts generalizing d with
  | nil => exact h
  | cons t ts ih =>
      simp only [run] at h ⊢
      split at h
      · rename_i d₁ hstep
        rw [step_mono hle hstep]
        exact ih h
      · simp at h

theorem parse_eq_error {e : ParseError} (h : OpenBlock.run m [] ts = .error e) :
    parse m ts = .error e := by
  have hrun := opened_run (m := m) .start ts
  change _ = OpenBlock.run m [] ts at hrun
  rw [h] at hrun
  unfold parse
  cases hd : run m .start ts with
  | ok d => simp [hd, Except.map] at hrun
  | error e' => simpa [hd, Except.map] using hrun

theorem run_of_unfinished {bs : List OpenBlock} (h : Unfinished m bs ts) :
    ∃ d, run m .start ts = .ok d ∧ d.opened = bs := by
  have hrun := opened_run (m := m) .start ts
  change _ = OpenBlock.run m [] ts at hrun
  rw [OpenBlock.run_eq_ok_iff.mpr h] at hrun
  cases hd : run m .start ts with
  | ok d => exact ⟨d, rfl, by simpa [hd, Except.map] using hrun⟩
  | error e => simp [hd, Except.map] at hrun

theorem parse_eq_unclosed {b : OpenBlock} {bs : List OpenBlock}
    (h : Unfinished m (b :: bs) ts) : parse m ts = .error (.unclosed b.opening b.span) := by
  obtain ⟨d, hrun, hopen⟩ := run_of_unfinished h
  unfold parse finish
  rw [hrun]
  cases hlayers : d.layers with
  | nil => simp [opened, hlayers] at hopen
  | cons l ls =>
      simp only [opened, hlayers, List.map_cons, List.cons.injEq] at hopen
      obtain ⟨rfl, -⟩ := hopen
      simp only [hlayers, Layer.toOpen]

theorem parse_eq_ok {m : Nat} {ts : List Token} (h : Sentence m ts) :
    ∃ b, parse m ts = .ok b := by
  obtain ⟨d, hrun, hopen⟩ := run_of_unfinished (.root h)
  have hlayers : d.layers = [] := by simpa [opened] using hopen
  exact ⟨d.top.reverse, by simp [parse, hrun, finish, hlayers]⟩

theorem parse_mono {limit limit' : Int} (hle : limit ≤ limit') {b : Body}
    (h : parse limit ts = .ok b) : parse limit' ts = .ok b := by
  unfold parse at h ⊢
  split at h
  · rename_i d hrun
    rw [run_mono hle hrun]
    exact h
  · simp at h

end Draft

end PromptTemplate
