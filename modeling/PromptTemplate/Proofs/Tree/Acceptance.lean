import PromptTemplate.Proofs.Tree.Slots

namespace PromptTemplate

inductive Offence (m : Nat) (before : List Token) : Token → ParseError → Prop
  | tooDeep {o : Opening} {s : Span} {bs : List OpenBlock} : Unfinished m bs before →
      bs.length = m → Offence m before (.tag (.opening o) s) (.tooDeep m s)
  | elseOutside {s : Span} : Sentence m before →
      Offence m before (.tag .otherwise s) (.elseOutside s)
  | secondElse {s : Span} {b : OpenBlock} {bs : List OpenBlock} : Unfinished m (b :: bs) before →
      b.inElse → Offence m before (.tag .otherwise s) (.secondElse b.opening s)
  | unmatchedEnd {helper : Helper} {s : Span} : Sentence m before →
      Offence m before (.tag (.closing helper) s) (.unmatchedEnd helper s)
  | mismatchedEnd {helper : Helper} {s : Span} {b : OpenBlock} {bs : List OpenBlock} :
      Unfinished m (b :: bs) before → b.opening.helper ≠ helper →
      Offence m before (.tag (.closing helper) s) (.mismatchedEnd b.opening.helper helper s)

variable {m : Nat} {ts : List Token}

theorem Offence.span {before : List Token} {t : Token} {e : ParseError}
    (h : Offence m before t e) : e.span = t.span := by
  cases h <;> rfl

theorem offence_of_step {bs : List OpenBlock} {before : List Token} {t : Token} {e : ParseError}
    (h : Unfinished m bs before) (hstep : OpenBlock.step m bs t = .error e) :
    Offence m before t e := by
  have hroot (h : Unfinished m [] before) : Sentence m before := by
    cases h with
    | root hts => exact hts
  cases t with
  | text content s => simp [OpenBlock.step] at hstep
  | tag tag s =>
      cases tag with
      | «variable» key => simp [OpenBlock.step] at hstep
      | opening o =>
          simp only [OpenBlock.step] at hstep
          split at hstep
          · rename_i hlimit
            cases hstep
            exact .tooDeep h (Nat.le_antisymm h.length_le hlimit)
          · simp at hstep
      | otherwise =>
          cases bs with
          | nil =>
              cases hstep
              exact .elseOutside (hroot h)
          | cons b bs =>
              simp only [OpenBlock.step] at hstep
              split at hstep
              · rename_i helse
                cases hstep
                exact .secondElse h helse
              · simp at hstep
      | closing helper =>
          cases bs with
          | nil =>
              cases hstep
              exact .unmatchedEnd (hroot h)
          | cons b bs =>
              simp only [OpenBlock.step] at hstep
              split at hstep
              · simp at hstep
              · rename_i hhelper
                cases hstep
                exact .mismatchedEnd h hhelper

namespace Body

/-- A row of tokens becomes a tree just in case it is a sentence. Any other is refused at the first
token behind which no sentence goes on, or else at the innermost block it leaves open. -/
theorem ofTokens_accepts_sentences (m : Nat) (ts : List Token) (source : Text) :
    ((∃ b, ofTokens m ts source = .ok b) ↔ Sentence m ts) ∧
    (∀ (n : Nat) (b c : Body),
      ofTokens m ts source = .ok b → ofTokens n ts source = .ok c → b = c) ∧
    ((∃ a, a <+: ts ∧ ¬ Viable m a) → ∃ before t after e, ts = before ++ t :: after ∧
      (∀ a, a <+: before → Viable m a) ∧ ¬ Viable m (before ++ [t]) ∧
      ofTokens m ts source = .error e ∧ e.span = t.span ∧ Offence m before t e) ∧
    ((∀ a, a <+: ts → Viable m a) → ¬ Sentence m ts → ∃ b bs, Unfinished m (b :: bs) ts ∧
      ofTokens m ts source = .error (.unclosed b.opening b.span)) := by
  simp only [ofTokens_eq_parse]
  refine ⟨⟨fun ⟨_, hb⟩ => Draft.sentence_of_parse hb, Draft.parse_eq_ok⟩, ?_, ?_, ?_⟩
  · intro n b c hb hc
    have hb' : Draft.parse (max m n) ts = .ok b := Draft.parse_mono (by omega) hb
    have hc' : Draft.parse (max m n) ts = .ok c := Draft.parse_mono (by omega) hc
    exact Except.ok.inj (hb'.symm.trans hc')
  · rintro ⟨a, ha, hdead⟩
    cases hrun : OpenBlock.run m [] ts with
    | ok bs =>
        exact absurd (OpenBlock.viable_of_prefix (OpenBlock.viable_iff_run.mpr ⟨bs, hrun⟩) ha) hdead
    | error e =>
        obtain ⟨before, t, after, bs, rfl, hbefore, hstep⟩ := OpenBlock.run_eq_error hrun
        have hopen := OpenBlock.run_eq_ok_iff.mp hbefore
        have hoffence := offence_of_step hopen hstep
        refine ⟨before, t, after, e, rfl, ?_, ?_, Draft.parse_eq_error hrun, hoffence.span,
          hoffence⟩
        · intro a ha
          exact OpenBlock.viable_of_prefix hopen.viable ha
        · rw [OpenBlock.viable_iff_run, OpenBlock.run_append, hbefore]
          simp [OpenBlock.run, hstep]
  · intro hviable hnot
    obtain ⟨bs, hrun⟩ := OpenBlock.viable_iff_run.mp (hviable ts (List.prefix_refl ts))
    cases bs with
    | nil => exact absurd (OpenBlock.sentence_iff_run.mpr hrun) hnot
    | cons b bs =>
        have hopen := OpenBlock.run_eq_ok_iff.mp hrun
        exact ⟨b, bs, hopen, Draft.parse_eq_unclosed hopen⟩

end Body

end PromptTemplate
