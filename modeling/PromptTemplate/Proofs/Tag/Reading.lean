import Mathlib.Data.List.Basic
import PromptTemplate.Proofs.Tag.Spelling

namespace PromptTemplate

namespace Text

structure Tight (t : Text) : Prop where
  nonempty : t ≠ []
  front : ∀ c ∈ t.head?, isBlank c = false
  back : ∀ c ∈ t.getLast?, isBlank c = false

theorem tight_of_blankless {t : Text} (hne : t ≠ []) (h : ∀ c ∈ t, isBlank c = false) : t.Tight :=
  ⟨hne, fun c hc => h c (List.mem_of_mem_head? hc), fun c hc => h c (List.mem_of_getLast? hc)⟩

theorem blankless_of_all {t : Text} (h : t.all fun c => !isBlank c) :
    ∀ c ∈ t, isBlank c = false := by
  simpa using h

theorem tight_of_ends {c : Char} {last : Text} (hc : isBlank c = false) (hne : last ≠ [])
    (hlast : ∀ d ∈ last, isBlank d = false) (middle : Text) : Tight (c :: middle ++ last) := by
  refine ⟨by simp, by simpa using hc, fun d hd => ?_⟩
  rw [List.getLast?_append_of_ne_nil _ hne] at hd
  exact hlast d (List.mem_of_getLast? hd)

theorem split_append {p : Char → Bool} {w r : Text} (hw : ∀ c ∈ w, p c)
    (hr : ∀ c ∈ r.head?, p c = false) : (w ++ r).takeWhile p = w ∧ (w ++ r).dropWhile p = r := by
  rw [List.takeWhile_append_of_pos hw, List.dropWhile_append_of_pos hw]
  cases r with
  | nil => simp
  | cons c r =>
      have hc : p c = false := hr c rfl
      simp [hc]

theorem strip_tight {core front back : Text} (hcore : core.Tight) (hfront : Blank front)
    (hback : Blank back) : strip (front ++ core ++ back) = core := by
  have hhead : ∀ c ∈ (core ++ back).head?, isBlank c = false := by
    cases core with
    | nil => exact absurd rfl hcore.nonempty
    | cons c core => exact hcore.front
  have hlast : ∀ c ∈ core.reverse.head?, isBlank c = false := by
    rw [List.head?_reverse]
    exact hcore.back
  have hback' : ∀ c ∈ back.reverse, isBlank c := fun c hc => hback c (List.mem_reverse.mp hc)
  rw [strip, trimWhile, List.append_assoc, (split_append hfront hhead).2, List.reverse_append,
    (split_append hback' hlast).2, List.reverse_reverse]

theorem cut?_append {c : Char} {a : Text} (h : c ∉ a) (b : Text) :
    cut? c (a ++ c :: b) = some (a, b) := by
  induction a with
  | nil => simp [cut?]
  | cons d a ih =>
      simp only [List.mem_cons, not_or] at h
      obtain ⟨hd, ha⟩ := h
      simp [cut?, Ne.symm hd, ih ha]

end Text

open Text (Blank IsQuote)

namespace Tag

theorem isKey_ne_nil {key : Text} (h : isKey key) : key ≠ [] := by
  rintro rfl
  simp [isKey] at h

theorem skipBlanks?_append {blank r : Text} (hblank : Blank blank) (hne : blank ≠ [])
    (hr : ∀ c ∈ r.head?, Text.isBlank c = false) : skipBlanks? (blank ++ r) = some r := by
  cases blank with
  | nil => exact absurd rfl hne
  | cons c blank =>
      obtain ⟨hc, hrest⟩ := List.forall_mem_cons.mp hblank
      simp [skipBlanks?, hc, (Text.split_append hrest hr).2]

theorem takeWord_append {w r : Text} (hw : ∀ c ∈ w, Text.isBlank c = false)
    (hr : ∀ c ∈ r.head?, Text.isBlank c) : takeWord (w ++ r) = (w, r) := by
  have hw' : ∀ c ∈ w, (!Text.isBlank c) = true := by simpa using hw
  have hr' : ∀ c ∈ r.head?, (!Text.isBlank c) = false := by simpa using hr
  rw [takeWord, (Text.split_append hw' hr').1, (Text.split_append hw' hr').2]

theorem takeKey?_append {key r : Text} (hkey : isKey key)
    (hr : ∀ c ∈ r.head?, isKeyChar c = false) : takeKey? (key ++ r) = some (key, r) := by
  cases key with
  | nil => simp [isKey] at hkey
  | cons c key =>
      simp only [isKey, Bool.and_eq_true, List.all_eq_true] at hkey
      obtain ⟨htake, hdrop⟩ := Text.split_append hkey.2 hr
      simp [takeKey?, hkey.1, htake, hdrop]

theorem takeLiteral?_append {quote : Char} {literal : Text} (hquote : IsQuote quote)
    (hnot : quote ∉ literal) (r : Text) :
    takeLiteral? (quote :: literal ++ quote :: r) = some (literal, r) := by
  rcases hquote with rfl | rfl
  · exact Text.cut?_append hnot r
  · exact Text.cut?_append hnot r

theorem closesBracket_append {blank : Text} (h : Blank blank) : closesBracket (blank ++ [')']) := by
  have hbracket : ∀ c ∈ [')'].head?, Text.isBlank c = false := by
    simp
    decide
  rw [closesBracket, (Text.split_append h hbracket).2]
  rfl

theorem isKeyChar_of_mem {key : Text} (h : isKey key) : ∀ c ∈ key, isKeyChar c := by
  cases key with
  | nil => simp
  | cons c r =>
      simp only [isKey, Bool.and_eq_true, List.all_eq_true] at h
      intro d hd
      rcases List.mem_cons.mp hd with rfl | hd
      · simp [isKeyChar, h.1]
      · exact h.2 d hd

theorem blankless_key {key : Text} (h : isKey key) : ∀ c ∈ key, Text.isBlank c = false :=
  fun c hc => isBlank_of_isKeyChar (isKeyChar_of_mem h c hc)

theorem blankless_name (helper : Helper) :
    helper.name ≠ [] ∧ ∀ c ∈ helper.name, Text.isBlank c = false := by
  cases helper <;> exact ⟨by decide, Text.blankless_of_all (by decide)⟩

theorem blankless_op {c : Comparison} {operand : Text} (h : c.Ending operand) :
    c.op ≠ [] ∧ ∀ d ∈ c.op, Text.isBlank d = false := by
  have hall : ∀ op ∈ literalOps ++ keyOps ++ unaryOps,
      op ≠ [] ∧ op.all fun d => !Text.isBlank d := by
    decide
  obtain ⟨hne, hblank⟩ := hall c.op h.op_mem
  exact ⟨hne, Text.blankless_of_all hblank⟩

theorem head?_blank {blank : Text} (h : Blank blank) (hne : blank ≠ []) (r : Text) :
    ∀ c ∈ (blank ++ r).head?, Text.isBlank c := by
  cases blank with
  | nil => exact absurd rfl hne
  | cons d blank =>
      intro c hc
      obtain rfl : d = c := by simpa using hc
      exact h d List.mem_cons_self

theorem head?_blankless {w : Text} (h : ∀ c ∈ w, Text.isBlank c = false) (hne : w ≠ []) (r : Text) :
    ∀ c ∈ (w ++ r).head?, Text.isBlank c = false := by
  cases w with
  | nil => exact absurd rfl hne
  | cons d w =>
      intro c hc
      obtain rfl : d = c := by simpa using hc
      exact h d List.mem_cons_self

theorem isKeyChar_of_isBlank {c : Char} (h : Text.isBlank c) : isKeyChar c = false := by
  cases hkey : isKeyChar c with
  | false => rfl
  | true => rw [isBlank_of_isKeyChar hkey] at h; exact absurd h (by simp)

theorem head?_bracket {after : Text} (h : Blank after) :
    ∀ c ∈ (after ++ [')']).head?, isKeyChar c = false := by
  cases after with
  | nil =>
      simp
      decide
  | cons d after => exact fun c hc => isKeyChar_of_isBlank (head?_blank h (by simp) _ c hc)

theorem head?_operand {c : Comparison} {operand after : Text} (hop : c.Ending operand)
    (hafter : Blank after) : ∀ d ∈ (operand ++ (after ++ [')'])).head?, isKeyChar d = false := by
  cases hop with
  | literal _ _ _ hblank hne =>
      intro d hd
      simp only [List.append_assoc] at hd
      exact isKeyChar_of_isBlank (head?_blank hblank hne _ d hd)
  | key _ _ hblank hne =>
      intro d hd
      simp only [List.append_assoc] at hd
      exact isKeyChar_of_isBlank (head?_blank hblank hne _ d hd)
  | alone _ => exact head?_bracket hafter

theorem keyOps_disjoint : ∀ op ∈ keyOps, op ∉ literalOps := by
  decide

theorem unaryOps_disjoint : ∀ op ∈ unaryOps, op ∉ literalOps ∧ op ∉ keyOps := by
  decide

theorem comparison?_of_ending {c : Comparison} {key inner between operand after : Text}
    (hkey : isKey key) (hop : c.Ending operand) (hinner : Blank inner) (hbetween : Blank between)
    (hne : between ≠ []) (hafter : Blank after) :
    comparison? (inner ++ (c.op ++ (between ++ (key ++ (operand ++ (after ++ [')'])))))) =
      some (key, c) := by
  have hword := blankless_op hop
  have hdrop := (Text.split_append hinner (head?_blankless hword.2 hword.1
    (between ++ (key ++ (operand ++ (after ++ [')'])))))).2
  have htake := takeWord_append hword.2
    (head?_blank hbetween hne (key ++ (operand ++ (after ++ [')']))))
  have hskip := skipBlanks?_append hbetween hne
    (head?_blankless (blankless_key hkey) (isKey_ne_nil hkey) (operand ++ (after ++ [')'])))
  have hread := takeKey?_append hkey (head?_operand hop hafter)
  have hclose := closesBracket_append hafter
  simp only [comparison?, hdrop, htake, hskip, hread, Option.bind_eq_bind, Option.bind_some]
  cases hop with
  | @literal op literal blank quote hmem hquote hnot hblank hblankne =>
      have hquoted : ∀ d ∈ (quote :: literal ++ quote :: (after ++ [')'])).head?,
          Text.isBlank d = false := by
        rcases hquote with rfl | rfl <;> simp <;> decide
      have hskip := skipBlanks?_append hblank hblankne hquoted
      have htake := takeLiteral?_append hquote hnot (after ++ [')'])
      simp only [List.cons_append, List.append_assoc, List.nil_append] at hskip htake ⊢
      simp [hmem, hskip, htake, hclose]
  | @key op other blank hmem hother hblank hblankne =>
      have hnot := keyOps_disjoint op hmem
      have hskip := skipBlanks?_append hblank hblankne
        (head?_blankless (blankless_key hother) (isKey_ne_nil hother) (after ++ [')']))
      have htake := takeKey?_append hother (head?_bracket hafter)
      simp only [List.append_assoc] at hskip htake ⊢
      simp [hnot, hmem, hskip, htake, hclose]
  | @alone op hmem =>
      have hnot := unaryOps_disjoint op hmem
      simp [hnot.1, hnot.2, hmem, hclose]

theorem opening?_of_spelled {o : Opening} {t : Text} (h : o.Spelled t) : opening? t = some o := by
  cases h with
  | @simple helper key blank hblank hne hkey =>
      have htake := takeWord_append (blankless_name helper).2 (head?_blank hblank hne key)
      have hskip : skipBlanks? (blank ++ key) = some key := by
        simpa using skipBlanks?_append hblank hne
          (head?_blankless (blankless_key hkey) (isKey_ne_nil hkey) [])
      rw [List.append_assoc]
      simp only [opening?, htake, Helper.ofName?_name, hskip, Option.bind_eq_bind, Option.bind_some]
      split
      · exact absurd hkey (by simp [isKey, isKeyStart])
      · rw [if_pos hkey]
  | @compared helper key before inner between after operand c htakes hkey hop hbefore hne hinner
      hbetween hbne hafter =>
      have hword := blankless_name helper
      have hread := comparison?_of_ending hkey hop hinner hbetween hbne hafter
      generalize htail : inner ++ (c.op ++ (between ++ (key ++ (operand ++ (after ++ [')']))))) =
        tail at hread
      have htake := takeWord_append hword.2 (head?_blank hbefore hne ('(' :: tail))
      have hskip : skipBlanks? (before ++ '(' :: tail) = some ('(' :: tail) :=
        skipBlanks?_append hbefore hne (by simp; decide)
      have hwhole : helper.name ++ before ++ '(' :: inner ++ c.op ++ between ++ key ++ operand ++
          after ++ [')'] = helper.name ++ (before ++ '(' :: tail) := by
        simp [← htail]
      rw [hwhole]
      simp [opening?, htake, Helper.ofName?_name, hskip, htakes, hread]

theorem tight_of_core {tag : Tag} {core : Text} (h : tag.Core core) : core.Tight := by
  cases h with
  | otherwise => exact Text.tight_of_blankless (by decide) (Text.blankless_of_all (by decide))
  | «variable» hkey _ => exact Text.tight_of_blankless (isKey_ne_nil hkey) (blankless_key hkey)
  | @closing helper =>
      refine Text.tight_of_blankless (by simp) fun c hc => ?_
      rcases List.mem_cons.mp hc with rfl | hc
      · decide
      · exact (blankless_name helper).2 c hc
  | opening ho =>
      cases ho with
      | @simple helper key blank _ _ hkey =>
          have h := Text.tight_of_ends (by decide : Text.isBlank '#' = false) (isKey_ne_nil hkey)
            (blankless_key hkey) (helper.name ++ blank)
          simpa using h
      | @compared helper key before inner between after operand c =>
          have h := Text.tight_of_ends (by decide : Text.isBlank '#' = false)
            (List.cons_ne_nil ')' []) (Text.blankless_of_all (by decide))
            (helper.name ++ before ++ '(' :: inner ++ c.op ++ between ++ key ++ operand ++ after)
          simpa using h

theorem read?_of_spelled {tag : Tag} {content : Text} (h : tag.Spelled content) :
    read? content = some tag := by
  obtain ⟨front, core, back, hfront, hcore, hback, rfl⟩ := h
  unfold read?
  rw [Text.strip_tight (tight_of_core hcore) hfront hback]
  cases hcore with
  | otherwise => rfl
  | «variable» hkey helse =>
      split
      · exact absurd hkey (by simp [isKey, isKeyStart])
      · exact absurd hkey (by simp [isKey, isKeyStart])
      · rw [if_neg helse, if_pos hkey]
  | opening ho => simp [opening?_of_spelled ho]
  | closing => simp [Helper.ofName?_name]

theorem read?_of_isKey {key : Text} (h : isKey key) (helse : key ≠ "else".toList) :
    read? key = some (.variable key) :=
  read?_of_spelled ⟨[], key, [], Text.blank_nil, .variable h helse, Text.blank_nil, by simp⟩

theorem read?_eq_some_iff {content : Text} {tag : Tag} :
    read? content = some tag ↔ tag.Spelled content :=
  ⟨spelled_of_read?, read?_of_spelled⟩

end Tag

end PromptTemplate
