import PromptTemplate.Tag

namespace PromptTemplate

namespace Text

def Blank (t : Text) : Prop :=
  ∀ c ∈ t, isBlank c

def IsQuote (c : Char) : Prop :=
  c = '"' ∨ c = '\''

theorem blank_nil : Blank [] :=
  List.forall_mem_nil _

theorem blank_space : Blank [' '] :=
  List.forall_mem_singleton.mpr rfl

theorem blank_takeWhile (t : Text) : Blank (t.takeWhile isBlank) := by
  intro c hc
  exact List.all_eq_true.mp List.all_takeWhile c hc

theorem strip_split (t : Text) :
    ∃ front back, Blank front ∧ Blank back ∧ t = front ++ strip t ++ back := by
  refine ⟨t.takeWhile isBlank,
    ((t.dropWhile isBlank).reverse.takeWhile isBlank).reverse, blank_takeWhile t, ?_, ?_⟩
  · intro c hc
    exact blank_takeWhile _ c (List.mem_reverse.mp hc)
  · have hback : strip t ++ ((t.dropWhile isBlank).reverse.takeWhile isBlank).reverse =
        t.dropWhile isBlank := by
      rw [strip, trimWhile, ← List.reverse_append, List.takeWhile_append_dropWhile,
        List.reverse_reverse]
    rw [List.append_assoc, hback, List.takeWhile_append_dropWhile]

theorem cut?_eq_some {c : Char} {t a b : Text} (h : cut? c t = some (a, b)) :
    t = a ++ c :: b ∧ c ∉ a := by
  induction t generalizing a with
  | nil => simp [cut?] at h
  | cons d r ih =>
      by_cases hd : d = c
      · simp only [cut?, hd, if_true, Option.some.injEq, Prod.mk.injEq] at h
        obtain ⟨rfl, rfl⟩ := h
        simp [hd]
      · simp only [cut?, hd, if_false, Option.map_eq_some_iff, Prod.exists, Prod.mk.injEq] at h
        obtain ⟨a', b', hcut, rfl, rfl⟩ := h
        obtain ⟨rfl, hnot⟩ := ih hcut
        exact ⟨rfl, by simp [Ne.symm hd, hnot]⟩

end Text

open Text (Blank IsQuote)

inductive Comparison.Ending : Comparison → Text → Prop
  | literal {op literal blank : Text} {quote : Char} : op ∈ Tag.literalOps →
      IsQuote quote → quote ∉ literal → Blank blank → blank ≠ [] →
      Ending ⟨op, some literal, none⟩ (blank ++ quote :: literal ++ [quote])
  | key {op other blank : Text} : op ∈ Tag.keyOps → Tag.isKey other → Blank blank → blank ≠ [] →
      Ending ⟨op, none, some other⟩ (blank ++ other)
  | alone {op : Text} : op ∈ Tag.unaryOps → Ending ⟨op, none, none⟩ []

theorem Comparison.Ending.op_mem {c : Comparison} {operand : Text} (h : c.Ending operand) :
    c.op ∈ Tag.literalOps ++ Tag.keyOps ++ Tag.unaryOps := by
  cases h with
  | literal hmem => simp [hmem]
  | key hmem => simp [hmem]
  | alone hmem => simp [hmem]

inductive Opening.Spelled : Opening → Text → Prop
  | simple {helper : Helper} {key blank : Text} : Blank blank → blank ≠ [] → Tag.isKey key →
      Spelled ⟨helper, key, helper = .unlessBlock, none⟩ (helper.name ++ blank ++ key)
  | compared {helper : Helper} {key before inner between after operand : Text} {c : Comparison} :
      helper.takesComparison → Tag.isKey key → c.Ending operand → Blank before → before ≠ [] →
      Blank inner → Blank between → between ≠ [] → Blank after →
      Spelled ⟨helper, key, helper = .unlessBlock, some c⟩
        (helper.name ++ before ++ '(' :: inner ++ c.op ++ between ++ key ++ operand ++ after ++ [')'])

namespace Tag

inductive Core : Tag → Text → Prop
  | otherwise : Core .otherwise "else".toList
  | variable {key : Text} : isKey key → key ≠ "else".toList → Core (.variable key) key
  | opening {o : Opening} {t : Text} : o.Spelled t → Core (.opening o) ('#' :: t)
  | closing {helper : Helper} : Core (.closing helper) ('/' :: helper.name)

def Spelled (tag : Tag) (t : Text) : Prop :=
  ∃ front core back, Blank front ∧ tag.Core core ∧ Blank back ∧ t = front ++ core ++ back

theorem skipBlanks?_eq_some {t r : Text} (h : skipBlanks? t = some r) :
    ∃ blank, Blank blank ∧ blank ≠ [] ∧ t = blank ++ r := by
  cases t with
  | nil => simp [skipBlanks?] at h
  | cons c t =>
      by_cases hc : Text.isBlank c
      · simp only [skipBlanks?, hc, if_true, Option.some.injEq] at h
        subst h
        refine ⟨c :: t.takeWhile Text.isBlank, ?_, by simp, by simp⟩
        intro d hd
        rcases List.mem_cons.mp hd with rfl | hd
        · exact hc
        · exact Text.blank_takeWhile t d hd
      · simp [skipBlanks?, hc] at h

theorem takeKey?_eq_some {t key r : Text} (h : takeKey? t = some (key, r)) :
    isKey key ∧ t = key ++ r := by
  cases t with
  | nil => simp [takeKey?] at h
  | cons c t =>
      by_cases hc : isKeyStart c
      · simp only [takeKey?, hc, if_true, Option.some.injEq, Prod.mk.injEq] at h
        obtain ⟨rfl, rfl⟩ := h
        exact ⟨by simp [isKey, hc], by simp⟩
      · simp [takeKey?, hc] at h

theorem takeLiteral?_eq_some {t literal r : Text} (h : takeLiteral? t = some (literal, r)) :
    ∃ quote, IsQuote quote ∧ quote ∉ literal ∧
      t = quote :: literal ++ quote :: r := by
  unfold takeLiteral? at h
  split at h
  · obtain ⟨rfl, hnot⟩ := Text.cut?_eq_some h
    exact ⟨'"', .inl rfl, hnot, rfl⟩
  · obtain ⟨rfl, hnot⟩ := Text.cut?_eq_some h
    exact ⟨'\'', .inr rfl, hnot, rfl⟩
  · simp at h

theorem closesBracket_eq_true {t : Text} (h : closesBracket t) :
    ∃ blank, Blank blank ∧ t = blank ++ [')'] := by
  refine ⟨t.takeWhile Text.isBlank, Text.blank_takeWhile t, ?_⟩
  rw [closesBracket, decide_eq_true_eq] at h
  rw [← h, List.takeWhile_append_dropWhile]

theorem takeWord_split (t : Text) : t = (takeWord t).1 ++ (takeWord t).2 := by
  simp [takeWord]

theorem comparison?_eq_some {t key : Text} {c : Comparison} (h : comparison? t = some (key, c)) :
    isKey key ∧ ∃ inner between operand after, Blank inner ∧ Blank between ∧ between ≠ [] ∧
      c.Ending operand ∧ Blank after ∧
      t = inner ++ c.op ++ between ++ key ++ operand ++ after ++ [')'] := by
  have hstart : t = t.takeWhile Text.isBlank ++ (takeWord (t.dropWhile Text.isBlank)).1 ++
      (takeWord (t.dropWhile Text.isBlank)).2 := by
    rw [List.append_assoc, ← takeWord_split, List.takeWhile_append_dropWhile]
  have hinner := Text.blank_takeWhile t
  simp only [comparison?, Option.bind_eq_bind, Option.bind_eq_some_iff, Prod.exists] at h
  obtain ⟨rest, hrest, key', t₁, htake, h⟩ := h
  obtain ⟨between, hbetween, hne, hrest⟩ := skipBlanks?_eq_some hrest
  obtain ⟨hkey, rfl⟩ := takeKey?_eq_some htake
  rw [hrest] at hstart
  split at h
  · rename_i hop
    simp only [Option.bind_eq_some_iff, Prod.exists] at h
    obtain ⟨t₂, hskip, literal, t₃, hliteral, h⟩ := h
    obtain ⟨blank, hblank, hblankne, rfl⟩ := skipBlanks?_eq_some hskip
    obtain ⟨quote, hquote, hnot, rfl⟩ := takeLiteral?_eq_some hliteral
    split at h
    · rename_i hclose
      obtain ⟨after, hafter, rfl⟩ := closesBracket_eq_true hclose
      cases h
      exact ⟨hkey, _, between, _, after, hinner, hbetween, hne,
        .literal hop hquote hnot hblank hblankne, hafter, by simpa using hstart⟩
    · simp at h
  · split at h
    · rename_i hop
      simp only [Option.bind_eq_some_iff, Prod.exists] at h
      obtain ⟨t₂, hskip, other, t₃, hread, h⟩ := h
      obtain ⟨blank, hblank, hblankne, rfl⟩ := skipBlanks?_eq_some hskip
      obtain ⟨hother, rfl⟩ := takeKey?_eq_some hread
      split at h
      · rename_i hclose
        obtain ⟨after, hafter, rfl⟩ := closesBracket_eq_true hclose
        cases h
        exact ⟨hkey, _, between, _, after, hinner, hbetween, hne,
          .key hop hother hblank hblankne, hafter, by simpa using hstart⟩
      · simp at h
    · split at h
      · rename_i hop
        split at h
        · rename_i hclose
          obtain ⟨after, hafter, rfl⟩ := closesBracket_eq_true hclose
          cases h
          exact ⟨hkey, _, between, [], after, hinner, hbetween, hne, .alone hop, hafter,
            by simpa using hstart⟩
        · simp at h
      · simp at h

theorem opening?_eq_some {t : Text} {o : Opening} (h : opening? t = some o) : o.Spelled t := by
  have hsplit := takeWord_split t
  simp only [opening?, Option.bind_eq_bind, Option.bind_eq_some_iff] at h
  obtain ⟨helper, hhelper, rest, hrest, h⟩ := h
  have hname : helper.name = (takeWord t).1 := by
    simpa [Helper.ofName?] using List.find?_some hhelper
  obtain ⟨before, hbefore, hne, hrest⟩ := skipBlanks?_eq_some hrest
  rw [← hname, hrest] at hsplit
  split at h
  · rename_i r
    split at h
    · rename_i htakes
      obtain ⟨⟨key, c⟩, hc, h⟩ := Option.bind_eq_some_iff.mp h
      cases h
      obtain ⟨hkey, inner, between, operand, after, hinner, hbetween, hbne, hop, hafter, rfl⟩ :=
        comparison?_eq_some hc
      have hspelled := Opening.Spelled.compared htakes hkey hop hbefore hne hinner hbetween hbne
        hafter
      rw [hsplit]
      simpa using hspelled
    · simp at h
  · split at h
    · rename_i hkey
      cases h
      rw [hsplit, ← List.append_assoc]
      exact .simple hbefore hne hkey
    · simp at h

theorem spelled_of_read? {content : Text} {tag : Tag} (h : read? content = some tag) :
    tag.Spelled content := by
  obtain ⟨front, back, hfront, hback, hsplit⟩ := Text.strip_split content
  refine ⟨front, _, back, hfront, ?_, hback, hsplit⟩
  unfold read? at h
  split at h
  · rename_i r hr
    obtain ⟨o, ho, rfl⟩ := Option.map_eq_some_iff.mp h
    exact hr ▸ .opening (opening?_eq_some ho)
  · rename_i r hr
    obtain ⟨helper, hh, rfl⟩ := Option.map_eq_some_iff.mp h
    have hname : helper.name = r := by simpa [Helper.ofName?] using List.find?_some hh
    exact hr ▸ hname ▸ .closing
  · split at h
    · rename_i helse
      cases h
      exact helse ▸ .otherwise
    · split at h
      · rename_i helse hkey
        cases h
        exact .variable hkey helse
      · simp at h

theorem isBlank_of_isKeyChar {c : Char} (h : isKeyChar c) : Text.isBlank c = false := by
  have hle (a b : Char) : a ≤ b ↔ a.toNat ≤ b.toNat := Iff.rfl
  simp only [isKeyChar, isKeyStart, Bool.or_eq_true, Bool.and_eq_true, decide_eq_true_eq, hle] at h
  have hrange : '-'.toNat ≤ c.toNat ∧ c.toNat ≤ 'z'.toNat := by
    rcases h with (((⟨hlo, hhi⟩ | ⟨hlo, hhi⟩) | rfl) | ⟨hlo, hhi⟩) | rfl
    · exact ⟨Nat.le_trans (by decide) hlo, hhi⟩
    · exact ⟨Nat.le_trans (by decide) hlo, Nat.le_trans hhi (by decide)⟩
    · decide
    · exact ⟨Nat.le_trans (by decide) hlo, Nat.le_trans hhi (by decide)⟩
    · decide
  have hlo : 45 ≤ c.toNat := hrange.1
  have hhi : c.toNat ≤ 122 := hrange.2
  simp [Text.isBlank]
  omega

end Tag

end PromptTemplate
