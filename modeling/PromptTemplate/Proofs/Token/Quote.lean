import PromptTemplate.Proofs.Tag.Spelling
import PromptTemplate.Proofs.Token.Walk

namespace PromptTemplate.Token

open Text (IsQuote)

def quoteAfter? (quote : Option Char) : Text → Option (Option Char)
  | [] => some quote
  | c :: r => (quoteBehind? quote c).bind fun q => quoteAfter? q r

theorem quoteAfter?_append (quote : Option Char) (a b : Text) :
    quoteAfter? quote (a ++ b) = (quoteAfter? quote a).bind fun q => quoteAfter? q b := by
  induction a generalizing quote with
  | nil => rfl
  | cons c a ih =>
      simp only [List.cons_append, quoteAfter?]
      cases quoteBehind? quote c with
      | none => rfl
      | some q => exact ih q

theorem quoteBehind?_isQuote {q : Option Char} {c : Char} (hq : ∀ d ∈ q, IsQuote d) :
    ∀ r ∈ quoteBehind? q c, ∀ d ∈ r, IsQuote d := by
  cases q <;> grind [quoteBehind?, IsQuote]

theorem quoteAfter?_isQuote {q : Option Char} {t : Text} (hq : ∀ d ∈ q, IsQuote d) :
    ∀ r ∈ quoteAfter? q t, ∀ d ∈ r, IsQuote d := by
  induction t generalizing q with
  | nil => simpa [quoteAfter?] using hq
  | cons c t ih =>
      intro r hr
      obtain ⟨q', hq', hr⟩ := Option.bind_eq_some_iff.mp hr
      exact ih (quoteBehind?_isQuote hq q' hq') r hr

theorem quoteBehind?_injective {q₁ q₂ q : Option Char} {c : Char} (hq₁ : ∀ d ∈ q₁, IsQuote d)
    (hq₂ : ∀ d ∈ q₂, IsQuote d) (h₁ : quoteBehind? q₁ c = some q)
    (h₂ : quoteBehind? q₂ c = some q) : q₁ = q₂ := by
  cases q₁ with
  | none =>
      cases q₂ with
      | none => rfl
      | some b =>
          have hb := hq₂ b rfl
          grind [quoteBehind?, IsQuote]
  | some a =>
      have ha := hq₁ a rfl
      cases q₂ with
      | none => grind [quoteBehind?, IsQuote]
      | some b =>
          have hb := hq₂ b rfl
          grind [quoteBehind?, IsQuote]

theorem quoteAfter?_injective {q₁ q₂ q : Option Char} {t : Text} (hq₁ : ∀ d ∈ q₁, IsQuote d)
    (hq₂ : ∀ d ∈ q₂, IsQuote d) (h₁ : quoteAfter? q₁ t = some q)
    (h₂ : quoteAfter? q₂ t = some q) : q₁ = q₂ := by
  induction t generalizing q₁ q₂ with
  | nil =>
      simp only [quoteAfter?, Option.some.injEq] at h₁ h₂
      rw [h₁, h₂]
  | cons c t ih =>
      obtain ⟨r₁, hr₁, h₁⟩ := Option.bind_eq_some_iff.mp h₁
      obtain ⟨r₂, hr₂, h₂⟩ := Option.bind_eq_some_iff.mp h₂
      obtain rfl := ih (quoteBehind?_isQuote hq₁ r₁ hr₁) (quoteBehind?_isQuote hq₂ r₂ hr₂) h₁ h₂
      exact quoteBehind?_injective hq₁ hq₂ hr₁ hr₂

def Plain (t : Text) : Prop :=
  ∀ c ∈ t, isTagChar c

theorem quoteBehind?_of_isTagChar {c : Char} (h : isTagChar c) :
    quoteBehind? none c = some none := by
  have hdouble : c ≠ '"' := by
    rintro rfl
    exact absurd h (by decide)
  have hsingle : c ≠ '\'' := by
    rintro rfl
    exact absurd h (by decide)
  simp [quoteBehind?, hdouble, hsingle, h]

theorem quoteAfter?_plain {t : Text} (h : Plain t) : quoteAfter? none t = some none := by
  induction t with
  | nil => rfl
  | cons c t ih =>
      rw [quoteAfter?, quoteBehind?_of_isTagChar (h c List.mem_cons_self)]
      exact ih fun d hd => h d (List.mem_cons_of_mem _ hd)

theorem quoteAfter?_literal {quote : Char} {literal : Text}
    (hquote : IsQuote quote) (hnot : quote ∉ literal) :
    quoteAfter? none (quote :: literal ++ [quote]) = some none := by
  have hinside (t : Text) (ht : quote ∉ t) :
      quoteAfter? (some quote) (t ++ [quote]) = some none := by
    induction t with
    | nil => simp [quoteAfter?, quoteBehind?]
    | cons c t ih =>
        simp only [List.mem_cons, not_or] at ht
        simpa [quoteAfter?, quoteBehind?, Ne.symm ht.1] using ih ht.2
  rw [List.cons_append, quoteAfter?]
  rcases hquote with rfl | rfl
  · exact hinside literal hnot
  · exact hinside literal hnot

theorem plain_of_all {t : Text} (h : t.all isTagChar = true) : Plain t :=
  List.all_eq_true.mp h

theorem plain_append {a b : Text} (ha : Plain a) (hb : Plain b) : Plain (a ++ b) := by
  intro c hc
  rcases List.mem_append.mp hc with hc | hc
  · exact ha c hc
  · exact hb c hc

theorem plain_blank {t : Text} (h : t.Blank) : Plain t := by
  intro c hc
  simp [isTagChar, h c hc]

theorem plain_key {key : Text} (h : Tag.isKey key) : Plain key := by
  cases key with
  | nil => simp [Tag.isKey] at h
  | cons d r =>
      simp only [Tag.isKey, Bool.and_eq_true, List.all_eq_true] at h
      intro c hc
      rcases List.mem_cons.mp hc with rfl | hc
      · simp [isTagChar, Tag.isKeyChar, h.1]
      · simp [isTagChar, h.2 c hc]

theorem plain_name (helper : Helper) : Plain helper.name := by
  cases helper <;> exact plain_of_all (by decide)

theorem plain_op {c : Comparison} {operand : Text} (h : c.Ending operand) : Plain c.op := by
  have hall : (Tag.literalOps ++ Tag.keyOps ++ Tag.unaryOps).all fun op => op.all isTagChar := by
    decide
  exact plain_of_all (List.all_eq_true.mp hall c.op h.op_mem)

theorem quoteAfter?_operand {c : Comparison} {operand : Text} (h : c.Ending operand) :
    quoteAfter? none operand = some none := by
  cases h with
  | literal _ hquote hnot hblank _ =>
      rw [List.append_assoc, quoteAfter?_append, quoteAfter?_plain (plain_blank hblank)]
      exact quoteAfter?_literal hquote hnot
  | key _ hkey hblank _ =>
      exact quoteAfter?_plain (plain_append (plain_blank hblank) (plain_key hkey))
  | alone _ => rfl

theorem quoteAfter?_opening {o : Opening} {t : Text} (h : o.Spelled t) :
    quoteAfter? none t = some none := by
  cases h with
  | simple hblank _ hkey =>
      exact quoteAfter?_plain
        (plain_append (plain_append (plain_name _) (plain_blank hblank)) (plain_key hkey))
  | @compared helper key before inner between after operand c _ hkey hop hbefore _ hinner hbetween
      _ hafter =>
      have hbracket : Plain ['('] ∧ Plain [')'] :=
        ⟨plain_of_all (by decide), plain_of_all (by decide)⟩
      have hfront : Plain (helper.name ++ before ++ '(' :: inner ++ c.op ++ between ++ key) := by
        refine plain_append (plain_append (plain_append ?_ (plain_op hop)) (plain_blank hbetween))
          (plain_key hkey)
        exact plain_append (plain_append (plain_name helper) (plain_blank hbefore))
          (plain_append hbracket.1 (plain_blank hinner))
      rw [List.append_assoc, quoteAfter?_append, quoteAfter?_append, quoteAfter?_plain hfront,
        Option.bind_some, quoteAfter?_operand hop, Option.bind_some]
      exact quoteAfter?_plain (plain_append (plain_blank hafter) hbracket.2)

theorem quoteAfter?_spelled {tag : Tag} {t : Text} (h : tag.Spelled t) :
    quoteAfter? none t = some none := by
  obtain ⟨front, core, back, hfront, hcore, hback, rfl⟩ := h
  have hmiddle : quoteAfter? none core = some none := by
    cases hcore with
    | otherwise => decide
    | «variable» hkey _ => exact quoteAfter?_plain (plain_key hkey)
    | opening ho =>
        rw [quoteAfter?, quoteBehind?_of_isTagChar (by decide)]
        exact quoteAfter?_opening ho
    | @closing helper =>
        rw [quoteAfter?, quoteBehind?_of_isTagChar (by decide)]
        exact quoteAfter?_plain (plain_name helper)
  rw [quoteAfter?_append, quoteAfter?_append, quoteAfter?_plain (plain_blank hfront),
    Option.bind_some, hmiddle, Option.bind_some]
  exact quoteAfter?_plain (plain_blank hback)

theorem quoteAfter?_of_read? {content : Text} {tag : Tag} (h : Tag.read? content = some tag) :
    quoteAfter? none content = some none :=
  quoteAfter?_spelled (Tag.spelled_of_read? h)

theorem quoteAfter?_brace {content inner : Text} {q : Option Char}
    (h : quoteAfter? none (content ++ '{' :: inner) = some q) :
    ∃ a, IsQuote a ∧ quoteAfter? none content = some (some a) ∧
      quoteAfter? (some a) inner = some q := by
  rw [quoteAfter?_append] at h
  obtain ⟨q', hq', h⟩ := Option.bind_eq_some_iff.mp h
  cases q' with
  | none =>
      have hbrace : isTagChar '{' = false := by decide
      simp [quoteAfter?, quoteBehind?, hbrace] at h
  | some a =>
      have ha : IsQuote a := quoteAfter?_isQuote (by simp) _ hq' a rfl
      have hne : '{' ≠ a := by
        rintro rfl
        rcases ha with ha | ha <;> exact absurd ha (by decide)
      refine ⟨a, ha, hq', ?_⟩
      simpa [quoteAfter?, quoteBehind?, hne] using h

variable {content key : Text} {found : Tag}

theorem quoteAfter?_within {a : Char} (ha : IsQuote a) {t : Text} (h : Plain t) :
    quoteAfter? (some a) t = some (some a) := by
  induction t with
  | nil => rfl
  | cons c t ih =>
      have hne : c ≠ a := by
        rintro rfl
        have hplain : isTagChar c := h c List.mem_cons_self
        rcases ha with rfl | rfl <;> exact absurd hplain (by decide)
      simp only [quoteAfter?, quoteBehind?, hne, if_false, Option.bind_some]
      exact ih fun d hd => h d (List.mem_cons_of_mem _ hd)

theorem read?_brace (content : Text) (hkey : Plain key) :
    Tag.read? (content ++ '{' :: key) = none := by
  cases h : Tag.read? (content ++ '{' :: key) with
  | none => rfl
  | some found =>
      obtain ⟨a, ha, -, hinside⟩ := quoteAfter?_brace (quoteAfter?_of_read? h)
      rw [quoteAfter?_within ha hkey] at hinside
      simp at hinside

theorem last_of_read? {c : Char} (h : Tag.read? (content ++ [c]) = some found) :
    IsQuote c ∨ isTagChar c := by
  have hquote := quoteAfter?_of_read? h
  rw [quoteAfter?_append] at hquote
  obtain ⟨q, hq, hlast⟩ := Option.bind_eq_some_iff.mp hquote
  have hquotes := quoteAfter?_isQuote (by simp) q hq
  cases q with
  | none => grind [quoteAfter?, quoteBehind?, IsQuote]
  | some a =>
      have ha := hquotes a rfl
      grind [quoteAfter?, quoteBehind?, IsQuote]

end PromptTemplate.Token
