import PromptTemplate.Proofs.Token.Loop

namespace PromptTemplate.Token

theorem tag_notMem_flush (found : Tag) (s : Span) (run : Text) (stop : Nat) :
    Token.tag found s ∉ flush run stop := by
  unfold flush
  split <;> simp

theorem tag_mem_scan_iff {before run t : Text} {pos : Nat} (hpos : pos = before.length)
    (found : Tag) (s : Span) :
    .tag found s ∈ scan before run pos t ↔
      ∃ c, TagAt (before.reverse ++ t) s.start c found ∧ s.stop = c + 2 ∧ pos ≤ s.start := by
  fun_induction scan before run pos t with
  | case1 before run pos t here n rest hhere source ih =>
      subst hpos
      have hat : TagAt (before.reverse ++ t) before.length (before.length + 2 + n) here :=
        tagAt_iff_tagHere?.mpr ⟨n, rest, hhere, rfl⟩
      have hsource : source.length = n + 4 ∧ t = source ++ rest := tagHere?_split hhere
      have hlen : before.length + n + 4 = (source.reverse ++ before).length := by
        simp [hsource.1]
        omega
      have hwhole : (source.reverse ++ before).reverse ++ rest = before.reverse ++ t := by
        rw [hsource.2]
        simp
      simp only [List.mem_append, tag_notMem_flush, false_or, List.mem_cons, Token.tag.injEq,
        ih hlen, hwhole]
      constructor
      · rintro (⟨rfl, rfl⟩ | ⟨c, hc, hstop, hle⟩)
        · exact ⟨_, hat, by simp; omega, Nat.le_refl _⟩
        · exact ⟨c, hc, hstop, by omega⟩
      · rintro ⟨c, hc, hstop, hle⟩
        rcases Nat.eq_or_lt_of_le hle with heq | hlt
        · rw [← heq] at hc
          obtain ⟨rfl, rfl⟩ := hat.unique hc
          obtain ⟨start, stop⟩ := s
          simp only at heq hstop
          exact .inl ⟨rfl, by rw [heq, hstop, ← heq]; congr 1; omega⟩
        · have hbehind := hat.disjoint hc hlt
          exact .inr ⟨c, hc, hstop, by omega⟩
  | case2 before run pos hnone =>
      simp only [tag_notMem_flush, false_iff, not_exists, not_and]
      intro c hc _ hle
      have hlt := (List.getElem?_eq_some_iff.mp hc.opened.1).1
      simp only [List.append_nil, List.length_reverse] at hlt
      omega
  | case3 before run pos c r hnone ih =>
      subst hpos
      have hwhole : (c :: before).reverse ++ r = before.reverse ++ c :: r := by simp
      rw [ih rfl, hwhole]
      constructor
      · rintro ⟨d, hd, hstop, hle⟩
        exact ⟨d, hd, hstop, by omega⟩
      · rintro ⟨d, hd, hstop, hle⟩
        rcases Nat.eq_or_lt_of_le hle with heq | hlt
        · rw [← heq] at hd
          obtain ⟨n, rest, hhere, -⟩ := tagAt_iff_tagHere?.mp hd
          simp [hnone] at hhere
        · exact ⟨d, hd, hstop, hlt⟩

theorem flush_span {run : Text} {stop : Nat} {token : Token} (h : token ∈ flush run stop) :
    token.span = ⟨stop - run.length, stop⟩ := by
  unfold flush at h
  split at h
  · simp at h
  · rw [List.mem_singleton.mp h]
    rfl

theorem flush_pairwise (run : Text) (stop : Nat) (r : Token → Token → Prop) :
    (flush run stop).Pairwise r := by
  unfold flush
  split <;> simp

theorem scan_ordered {before run t : Text} {pos : Nat} :
    (∀ token ∈ scan before run pos t, pos - run.length ≤ token.span.start) ∧
      (scan before run pos t).Pairwise fun a b => a.span.stop ≤ b.span.start := by
  fun_induction scan before run pos t with
  | case1 before run pos t here n rest hhere source ih =>
      have hfrom : ∀ token ∈ scan (source.reverse ++ before) [] (pos + n + 4) rest,
          pos + n + 4 ≤ token.span.start := by simpa using ih.1
      have hflush : ∀ token ∈ flush run pos,
          token.span.start = pos - run.length ∧ token.span.stop = pos := by
        intro token h
        rw [flush_span h]
        exact ⟨rfl, rfl⟩
      constructor
      · intro token htoken
        rcases List.mem_append.mp htoken with htoken | htoken
        · exact Nat.le_of_eq (hflush token htoken).1.symm
        · rcases List.mem_cons.mp htoken with rfl | htoken
          · exact Nat.sub_le ..
          · have := hfrom token htoken
            omega
      · refine List.pairwise_append.mpr
          ⟨flush_pairwise .., List.pairwise_cons.mpr ⟨hfrom, ih.2⟩, ?_⟩
        intro a ha b hb
        rw [(hflush a ha).2]
        rcases List.mem_cons.mp hb with rfl | hb
        · exact Nat.le_refl _
        · have := hfrom b hb
          omega
  | case2 before run pos hnone =>
      refine ⟨?_, flush_pairwise ..⟩
      intro token htoken
      exact Nat.le_of_eq (congrArg Span.start (flush_span htoken)).symm
  | case3 before run pos c r hnone ih =>
      refine ⟨?_, ih.2⟩
      intro token htoken
      have := ih.1 token htoken
      simp only [List.length_cons] at this
      omega

theorem tag_mem_tokenize_iff (t : Text) (found : Tag) (s : Span) :
    .tag found s ∈ tokenize t ↔ ∃ c, TagAt t s.start c found ∧ s.stop = c + 2 := by
  rw [tokenize_eq_scan, tag_mem_scan_iff List.length_nil.symm]
  simp

theorem tokenize_ordered (t : Text) :
    (tokenize t).Pairwise fun a b => a.span.stop ≤ b.span.start := by
  rw [tokenize_eq_scan]
  exact scan_ordered.2

/-- Where tags stand is told by the template alone: at two opening braces that are not escaped and
whose nearest closing ones end something that is read as a tag. -/
theorem tokenize_tags_positional (t : Text) :
    (∀ p, (∃ token ∈ tokenize t, token.isText = false ∧ token.span.start = p) ↔
      ∃ c found, TagAt t p c found) ∧
    (∀ p c found, TagAt t p c found → ∀ token ∈ tokenize t, token.isText = false →
      token.span.start = p → token = .tag found ⟨p, c + 2⟩) ∧
    (tokenize t).Pairwise (fun a b => a.span.stop ≤ b.span.start) ∧
    ∀ p q c d found other, TagAt t p c found → TagAt t q d other → p < q → c + 2 ≤ q := by
  refine ⟨?_, ?_, tokenize_ordered t, fun p q c d found other => TagAt.disjoint⟩
  · intro p
    constructor
    · rintro ⟨token, htoken, htag, rfl⟩
      cases token with
      | text content s => simp [isText] at htag
      | tag found s =>
          obtain ⟨c, hc, -⟩ := (tag_mem_tokenize_iff t found s).mp htoken
          exact ⟨c, found, hc⟩
    · rintro ⟨c, found, hc⟩
      exact ⟨.tag found ⟨p, c + 2⟩, (tag_mem_tokenize_iff t found _).mpr ⟨c, hc, rfl⟩, rfl, rfl⟩
  · rintro p c found hc token htoken htag rfl
    cases token with
    | text content s => simp [isText] at htag
    | tag other s =>
        obtain ⟨d, hd, hstop⟩ := (tag_mem_tokenize_iff t other s).mp htoken
        obtain ⟨rfl, rfl⟩ := hc.unique hd
        simp [span, ← hstop]

def tags (t : Text) : List Token :=
  (tokenize t).filter fun token => !token.isText

theorem mem_tags_iff {t : Text} {token : Token} :
    token ∈ tags t ↔ ∃ p c found, token = .tag found ⟨p, c + 2⟩ ∧ TagAt t p c found := by
  rw [tags, List.mem_filter]
  cases token with
  | text content s => simp [isText]
  | tag found s =>
      obtain ⟨start, stop⟩ := s
      simp only [tag_mem_tokenize_iff, isText, Bool.not_false, and_true]
      constructor
      · rintro ⟨c, hc, rfl⟩
        exact ⟨start, c, found, rfl, hc⟩
      · rintro ⟨p, c, found', heq, hc⟩
        cases heq
        exact ⟨c, hc, rfl⟩

theorem all_isText_iff {t : Text} :
    (∀ token ∈ tokenize t, token.isText) ↔ ∀ p c found, ¬ TagAt t p c found := by
  constructor
  · intro h p c found hat
    have htag : Token.tag found ⟨p, c + 2⟩ ∈ tags t := mem_tags_iff.mpr ⟨p, c, found, rfl, hat⟩
    obtain ⟨hmem, hnot⟩ := List.mem_filter.mp htag
    simp [h _ hmem] at hnot
  · intro h token htoken
    cases htext : token.isText with
    | true => rfl
    | false =>
        have htag : token ∈ tags t := List.mem_filter.mpr ⟨htoken, by simp [htext]⟩
        obtain ⟨p, c, found, -, hat⟩ := mem_tags_iff.mp htag
        exact absurd hat (h p c found)

theorem tags_pairwise (t : Text) :
    (tags t).Pairwise fun a b => a.span.start < b.span.start := by
  have hordered : (tags t).Pairwise fun a b => a.span.stop ≤ b.span.start :=
    (tokenize_ordered t).filter _
  refine hordered.imp_of_mem fun ha _ hab => ?_
  obtain ⟨p, c, found, rfl, hc⟩ := mem_tags_iff.mp ha
  have hbehind := hc.behind
  simp only [span] at hab ⊢
  omega

end PromptTemplate.Token
