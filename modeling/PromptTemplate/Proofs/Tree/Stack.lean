import PromptTemplate.Proofs.Tree.Grammar

namespace PromptTemplate.OpenBlock

def step (m : Nat) (bs : List OpenBlock) : Token → Except ParseError (List OpenBlock)
  | .text .. | .tag (.variable _) _ => .ok bs
  | .tag (.opening o) s =>
      if m ≤ bs.length then .error (.tooDeep m s) else .ok (⟨o, s, false⟩ :: bs)
  | .tag .otherwise s =>
      match bs with
      | [] => .error (.elseOutside s)
      | b :: bs =>
          if b.inElse then .error (.secondElse b.opening s)
          else .ok ({ b with inElse := true } :: bs)
  | .tag (.closing helper) s =>
      match bs with
      | [] => .error (.unmatchedEnd helper s)
      | b :: bs =>
          if b.opening.helper = helper then .ok bs
          else .error (.mismatchedEnd b.opening.helper helper s)

def run (m : Nat) : List OpenBlock → List Token → Except ParseError (List OpenBlock)
  | bs, [] => .ok bs
  | bs, t :: ts =>
      match step m bs t with
      | .ok bs => run m bs ts
      | .error e => .error e

variable {m : Nat} {bs bs' : List OpenBlock} {ts : List Token}

theorem run_append (m : Nat) (bs : List OpenBlock) (a b : List Token) :
    run m bs (a ++ b) =
      match run m bs a with
      | .ok bs => run m bs b
      | .error e => .error e := by
  induction a generalizing bs with
  | nil => rfl
  | cons t a ih =>
      simp only [List.cons_append, run]
      cases step m bs t with
      | ok bs => exact ih bs
      | error e => rfl

theorem unfinished_step {t : Token} (h : Unfinished m bs ts) (hstep : step m bs t = .ok bs') :
    Unfinished m bs' (ts ++ [t]) := by
  obtain ⟨k, hk⟩ : ∃ k, bs.length + k = m := ⟨_, Nat.add_sub_cancel' h.length_le⟩
  cases t with
  | text content s =>
      cases hstep
      exact h.append hk (.text .nil)
  | tag tag s =>
      cases tag with
      | «variable» key =>
          cases hstep
          exact h.append hk (.variable .nil)
      | opening o =>
          simp only [step] at hstep
          split at hstep
          · simp at hstep
          · rename_i hlimit
            cases hstep
            exact h.opened (Nat.lt_of_not_le hlimit) o s
      | otherwise =>
          cases bs with
          | nil => simp [step] at hstep
          | cons b bs =>
              obtain ⟨o, s', inElse⟩ := b
              cases inElse with
              | true => simp [step] at hstep
              | false =>
                  cases hstep
                  exact h.otherwise s
      | closing helper =>
          cases bs with
          | nil => simp [step] at hstep
          | cons b bs =>
              simp only [step] at hstep
              split at hstep
              · rename_i hhelper
                cases hstep
                exact hhelper ▸ h.closed s
              · simp at hstep

theorem unfinished_run {more : List Token} (h : Unfinished m bs ts)
    (hrun : run m bs more = .ok bs') : Unfinished m bs' (ts ++ more) := by
  induction more generalizing bs ts with
  | nil =>
      cases hrun
      simpa using h
  | cons t more ih =>
      simp only [run] at hrun
      split at hrun
      · rename_i bs₁ hstep
        rw [List.append_cons]
        exact ih (unfinished_step h hstep) hrun
      · simp at hrun

theorem run_opening (h : bs.length < m) (o : Opening) (s : Span) (ts : List Token) :
    run m bs (.tag (.opening o) s :: ts) = run m (⟨o, s, false⟩ :: bs) ts := by
  simp [run, step, Nat.not_le.mpr h]

theorem run_otherwise (o : Opening) (s e : Span) (ts : List Token) :
    run m (⟨o, s, false⟩ :: bs) (.tag .otherwise e :: ts) = run m (⟨o, s, true⟩ :: bs) ts :=
  rfl

theorem run_closing (o : Opening) (s e : Span) (inElse : Bool) (ts : List Token) :
    run m (⟨o, s, inElse⟩ :: bs) (.tag (.closing o.helper) e :: ts) = run m bs ts := by
  simp [run, step]

theorem fits_inside {k : Nat} (b : OpenBlock) (h : bs.length + (k + 1) ≤ m) :
    (b :: bs).length + k ≤ m := by
  rw [List.length_cons]
  omega

theorem run_sentence {k : Nat} (h : Sentence k ts) (hk : bs.length + k ≤ m) (rest : List Token) :
    run m bs (ts ++ rest) = run m bs rest := by
  induction h generalizing bs rest with
  | nil => rfl
  | text _ ih => exact ih hk rest
  | «variable» _ ih => exact ih hk rest
  | @block k o s e inner ts _ _ ihinner ih =>
      simp only [List.cons_append, List.append_assoc]
      rw [run_opening (by omega), ihinner (fits_inside _ hk), run_closing]
      exact ih hk rest
  | @blockElse k o s e f inner other ts _ _ _ ihinner ihother ih =>
      simp only [List.cons_append, List.append_assoc]
      rw [run_opening (by omega), ihinner (fits_inside _ hk), run_otherwise,
        ihother (fits_inside _ hk), run_closing]
      exact ih hk rest

theorem run_eq_ok_iff : run m [] ts = .ok bs ↔ Unfinished m bs ts := by
  constructor
  · intro h
    simpa using unfinished_run (.root .nil) h
  · intro h
    induction h with
    | root hts => simpa [run] using run_sentence hts (by simp) []
    | @consequent k o s bs ts inner _ hk hinner ih =>
        have hfit : bs.length + (k + 1) ≤ m := by omega
        have hinner := run_sentence hinner (fits_inside ⟨o, s, false⟩ hfit) []
        rw [run_append, ih]
        simp only
        rw [run_opening (by omega)]
        simpa [run] using hinner
    | @alternate k o s e bs ts inner other _ hk hinner hother ih =>
        have hfit : bs.length + (k + 1) ≤ m := by omega
        have hother := run_sentence hother (fits_inside ⟨o, s, true⟩ hfit) []
        rw [List.append_assoc, run_append, ih]
        simp only [List.cons_append]
        rw [run_opening (by omega), run_sentence hinner (fits_inside _ hfit), run_otherwise]
        simpa [run] using hother

theorem sentence_iff_run : Sentence m ts ↔ run m [] ts = .ok [] := by
  rw [run_eq_ok_iff]
  constructor
  · exact .root
  · intro h
    cases h with
    | root hts => exact hts

theorem viable_iff_run : Viable m ts ↔ ∃ bs, run m [] ts = .ok bs := by
  simp only [run_eq_ok_iff]
  constructor
  · rintro ⟨rest, hrest⟩
    rw [sentence_iff_run, run_append] at hrest
    cases hrun : run m [] ts with
    | error e => simp [hrun] at hrest
    | ok bs => exact ⟨bs, run_eq_ok_iff.mp hrun⟩
  · rintro ⟨bs, h⟩
    exact h.viable

theorem viable_of_prefix {a : List Token} (h : Viable m ts) (ha : a <+: ts) : Viable m a := by
  obtain ⟨more, rfl⟩ := ha
  obtain ⟨rest, hrest⟩ := h
  exact ⟨more ++ rest, by simpa using hrest⟩

theorem run_eq_error {e : ParseError} (h : run m bs ts = .error e) :
    ∃ before t after bs', ts = before ++ t :: after ∧ run m bs before = .ok bs' ∧
      step m bs' t = .error e := by
  induction ts generalizing bs with
  | nil => simp [run] at h
  | cons t ts ih =>
      simp only [run] at h
      split at h
      · rename_i bs₁ hstep
        obtain ⟨before, t', after, bs', rfl, hrun, herror⟩ := ih h
        exact ⟨t :: before, t', after, bs', rfl, by simpa [run, hstep] using hrun, herror⟩
      · rename_i e' hstep
        cases h
        exact ⟨[], t, ts, bs, rfl, rfl, hstep⟩

end PromptTemplate.OpenBlock
