import PromptTemplate.Proofs.Template.Printing
import PromptTemplate.Proofs.Tree.Slots

namespace PromptTemplate

open Text (blank_nil blank_space)

namespace Template

def Ends (row : List (Text ⊕ Tag)) : Prop :=
  ∀ piece ∈ row.head?, piece = .inr .otherwise ∨ ∃ helper, piece = .inr (.closing helper)

theorem ends_otherwise (row : List (Text ⊕ Tag)) : Ends (.inr .otherwise :: row) := by
  simp [Ends]

theorem ends_closing (helper : Helper) (row : List (Text ⊕ Tag)) :
    Ends (.inr (.closing helper) :: row) := by
  simp [Ends]

theorem eq_nil_of_ends {t : Template} {r r' : List (Text ⊕ Tag)} (hr : Ends r)
    (h : t.flatten ++ r' = r) : t = .nil := by
  subst h
  cases t <;> simp [flatten, Ends] at hr ⊢

-- by induction on the first template: each branch ends where siblings cannot go on
theorem flatten_unique {t t' : Template} {r r' : List (Text ⊕ Tag)} (hr : Ends r) (hr' : Ends r')
    (h : t.flatten ++ r = t'.flatten ++ r') : t = t' ∧ r = r' := by
  induction t generalizing t' r r' with
  | nil =>
      obtain rfl : t' = .nil := eq_nil_of_ends hr h.symm
      exact ⟨rfl, h⟩
  | text content rest ih =>
      cases t' with
      | nil => exact absurd (eq_nil_of_ends hr' h) (by simp)
      | text content' rest' =>
          simp only [flatten, List.cons_append, List.cons.injEq, Sum.inl.injEq] at h
          obtain ⟨rfl, hrest⟩ := h
          obtain ⟨rfl, rfl⟩ := ih hr hr' hrest
          exact ⟨rfl, rfl⟩
      | «variable» => simp [flatten] at h
      | block => simp [flatten] at h
      | blockElse => simp [flatten] at h
  | «variable» key rest ih =>
      cases t' with
      | nil => exact absurd (eq_nil_of_ends hr' h) (by simp)
      | text => simp [flatten] at h
      | «variable» key' rest' =>
          simp only [flatten, List.cons_append, List.cons.injEq, Sum.inr.injEq,
            Tag.variable.injEq] at h
          obtain ⟨rfl, hrest⟩ := h
          obtain ⟨rfl, rfl⟩ := ih hr hr' hrest
          exact ⟨rfl, rfl⟩
      | block => simp [flatten] at h
      | blockElse => simp [flatten] at h
  | block o c rest ihc ih =>
      cases t' with
      | nil => exact absurd (eq_nil_of_ends hr' h) (by simp)
      | text => simp [flatten] at h
      | «variable» => simp [flatten] at h
      | block o' c' rest' =>
          simp only [flatten, List.cons_append, List.append_assoc, List.cons.injEq, Sum.inr.injEq,
            Tag.opening.injEq] at h
          obtain ⟨rfl, hinner⟩ := h
          obtain ⟨rfl, hclosing⟩ := ihc (ends_closing _ _) (ends_closing _ _) hinner
          obtain ⟨rfl, rfl⟩ := ih hr hr' (List.cons.inj hclosing).2
          exact ⟨rfl, rfl⟩
      | blockElse o' c' a' rest' =>
          simp only [flatten, List.cons_append, List.append_assoc, List.cons.injEq] at h
          obtain ⟨-, hmiddle⟩ := ihc (ends_closing _ _) (ends_otherwise _) h.2
          simp at hmiddle
  | blockElse o c a rest ihc iha ih =>
      cases t' with
      | nil => exact absurd (eq_nil_of_ends hr' h) (by simp)
      | text => simp [flatten] at h
      | «variable» => simp [flatten] at h
      | block o' c' rest' =>
          simp only [flatten, List.cons_append, List.append_assoc, List.cons.injEq] at h
          obtain ⟨-, hmiddle⟩ := ihc (ends_otherwise _) (ends_closing _ _) h.2
          simp at hmiddle
      | blockElse o' c' a' rest' =>
          simp only [flatten, List.cons_append, List.append_assoc, List.cons.injEq, Sum.inr.injEq,
            Tag.opening.injEq] at h
          obtain ⟨rfl, hinner⟩ := h
          obtain ⟨rfl, hmiddle⟩ := ihc (ends_otherwise _) (ends_otherwise _) hinner
          obtain ⟨rfl, hclosing⟩ := iha (ends_closing _ _) (ends_closing _ _)
            (List.cons.inj hmiddle).2
          obtain ⟨rfl, rfl⟩ := ih hr hr' (List.cons.inj hclosing).2
          exact ⟨rfl, rfl⟩

theorem flatten_injective {t t' : Template} (h : t.flatten = t'.flatten) : t = t' := by
  have hnone : Ends [] := by simp [Ends]
  exact (flatten_unique hnone hnone (by rw [h])).1

theorem sentence_of_flatten {t : Template} {m : Nat} {ts : List Token}
    (h : ts.map Token.bare = t.flatten) (hdepth : t.depth ≤ m) : Sentence m ts := by
  have htext {token : Token} {content : Text} (h : token.bare = .inl content) :
      ∃ s, token = .text content s := by
    cases token <;> simp_all [Token.bare]
  have htag {token : Token} {found : Tag} (h : token.bare = .inr found) :
      ∃ s, token = .tag found s := by
    cases token <;> simp_all [Token.bare]
  induction t generalizing m ts with
  | nil =>
      obtain rfl : ts = [] := by simpa [flatten] using h
      exact .nil
  | text content rest ih =>
      obtain ⟨token, ts, rfl, htoken, hrest⟩ := List.map_eq_cons_iff.mp h
      obtain ⟨s, rfl⟩ := htext htoken
      exact .text (ih hrest hdepth)
  | «variable» key rest ih =>
      obtain ⟨token, ts, rfl, htoken, hrest⟩ := List.map_eq_cons_iff.mp h
      obtain ⟨s, rfl⟩ := htag htoken
      exact .variable (ih hrest hdepth)
  | block o consequent rest ihc ih =>
      obtain ⟨k, rfl⟩ : ∃ k, m = k + 1 := Nat.exists_eq_add_one.mpr (by grind [depth])
      simp only [depth, Nat.max_le, Nat.add_le_add_iff_right] at hdepth
      obtain ⟨token, ts, rfl, htoken, hts⟩ := List.map_eq_cons_iff.mp h
      obtain ⟨inner, ts, rfl, hinner, hts⟩ := List.map_eq_append_iff.mp hts
      obtain ⟨last, ts, rfl, hlast, hrest⟩ := List.map_eq_cons_iff.mp hts
      obtain ⟨s, rfl⟩ := htag htoken
      obtain ⟨e, rfl⟩ := htag hlast
      exact .block (ihc hinner hdepth.1) (ih hrest hdepth.2)
  | blockElse o consequent alternate rest ihc iha ih =>
      obtain ⟨k, rfl⟩ : ∃ k, m = k + 1 := Nat.exists_eq_add_one.mpr (by grind [depth])
      simp only [depth, Nat.max_le, Nat.add_le_add_iff_right] at hdepth
      simp only [flatten, List.cons_append, List.append_assoc] at h
      obtain ⟨token, ts, rfl, htoken, hts⟩ := List.map_eq_cons_iff.mp h
      obtain ⟨inner, ts, rfl, hinner, hts⟩ := List.map_eq_append_iff.mp hts
      obtain ⟨middle, ts, rfl, hmiddle, hts⟩ := List.map_eq_cons_iff.mp hts
      obtain ⟨other, ts, rfl, hother, hts⟩ := List.map_eq_append_iff.mp hts
      obtain ⟨last, ts, rfl, hlast, hrest⟩ := List.map_eq_cons_iff.mp hts
      obtain ⟨s, rfl⟩ := htag htoken
      obtain ⟨e, rfl⟩ := htag hmiddle
      obtain ⟨f, rfl⟩ := htag hlast
      have hblock := Sentence.blockElse (o := o) (s := s) (e := e) (f := f)
        (ihc hinner hdepth.1.1) (iha hother hdepth.1.2) (ih hrest hdepth.2)
      simpa using hblock

end Template

namespace Body

def template : Body → Template
  | .nil => .nil
  | .text _ content _ rest => .text content rest.template
  | .variable _ key _ rest => .variable key rest.template
  | .block _ o _ consequent _ false _ rest => .block o consequent.template rest.template
  | .block _ o _ consequent _ true alternate rest =>
      .blockElse o consequent.template alternate.template rest.template

theorem flatten_template (b : Body) : b.template.flatten = b.flatten := by
  induction b with
  | nil => rfl
  | text id content s rest ih => simp [template, Template.flatten, flatten, ih]
  | «variable» id key s rest ih => simp [template, Template.flatten, flatten, ih]
  | block id o s consequent elseSpan hasAlternate alternate rest ihc iha ih =>
      cases hasAlternate with
      | false => simp [template, Template.flatten, flatten, ihc, ih]
      | true => simp [template, Template.flatten, flatten, ihc, iha, ih]

theorem ofTokens_flatten {t : Template} {limit : Int} {ts : List Token}
    (h : ts.map Token.bare = t.flatten) (hdepth : t.depth ≤ limit) (source : Text) :
    ∃ b, ofTokens limit ts source = .ok b ∧ b.template = t := by
  obtain ⟨b, hbuilt, hb⟩ := Draft.exists_built (Template.sentence_of_flatten h (Nat.le_refl _))
  refine ⟨b, ?_, Template.flatten_injective ?_⟩
  · rw [ofTokens_eq_parse]
    exact Draft.parse_mono hdepth hb
  · rw [flatten_template, hbuilt.flatten, h]

end Body

namespace Template

theorem parse_undoes_print {t : Template} (ht : t.Proper) :
    (∃ source, t.Printed source) ∧
    ∀ source (limit : Int), t.Printed source → t.depth ≤ limit →
      ∃ tree, Tree.parse limit source = .ok tree ∧ tree.source = source ∧
        tree.body.template = t := by
  refine ⟨ht.printed, fun source limit hprinted hdepth => ?_⟩
  have htokens : (Token.tokenize source).map Token.bare = t.flatten :=
    Token.tokenize_written hprinted ht.row
  obtain ⟨b, hb, hsame⟩ := Body.ofTokens_flatten htokens hdepth source
  exact ⟨⟨source, b⟩, by rw [Tree.parse, hb]; rfl, rfl, hsame⟩

theorem parse_undoes_print_of_braces :
    let o : Opening :=
      ⟨.unlessBlock, "eq".toList, true, some ⟨"gte".toList, some "\x7d\x7b\x7bk".toList, none⟩⟩
    let t : Template := .blockElse o .nil (.text ['x'] .nil) .nil
    let source := ("\x7b\x7b #unless (gte  eq '\x7d\x7b\x7bk')\x7d\x7d\x7b\x7b else\x7d\x7dx" ++
      "\x7b\x7b/unless \x7d\x7d").toList
    t.Proper ∧ t.Printed source ∧
      ∃ tree, Tree.parse 1 source = .ok tree ∧ tree.source = source ∧ tree.body.template = t := by
  intro o t source
  have hpairless : ∀ d, ¬ Text.PairAt '}' "\x7d\x7b\x7bk".toList d := by
    rintro d ⟨-, hsecond⟩
    exact absurd (List.mem_of_getElem? (l := "\x7b\x7bk".toList) hsecond) (by decide)
  have hproper : t.Proper := by
    refine ⟨⟨rfl, rfl, ?_⟩, trivial, ⟨⟨by simp, by simp⟩, by simp, trivial⟩, trivial⟩
    intro c hc
    obtain rfl := Option.some.inj hc
    exact ⟨rfl, .literal (by decide) hpairless (.inr rfl) (by decide)⟩
  have hblanks : Text.Blank [' ', ' '] := List.forall_mem_cons.mpr ⟨rfl, blank_space⟩
  have hending : Comparison.Ending ⟨"gte".toList, some "\x7d\x7b\x7bk".toList, none⟩ _ :=
    .literal (by decide) (.inr rfl) (by decide) blank_space (by simp)
  have hopening : o.Spelled "unless (gte  eq '\x7d\x7b\x7bk')".toList :=
    .compared rfl rfl hending blank_space (by simp) blank_nil hblanks (by simp) blank_nil
  have hprinted : t.Printed source :=
    .tag ⟨[' '], _, [], blank_space, .opening hopening, blank_nil, rfl⟩
      (.tag ⟨[' '], _, [], blank_space, .otherwise, blank_nil, rfl⟩
        (.text (.tag ⟨[], _, [' '], blank_nil, .closing, blank_space, rfl⟩ .nil)))
  exact ⟨hproper, hprinted, (parse_undoes_print hproper).2 source 1 hprinted (by decide)⟩

end Template

end PromptTemplate
