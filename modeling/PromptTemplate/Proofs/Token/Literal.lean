import Mathlib.Data.List.Pairwise
import PromptTemplate.Proofs.Template.Joining

namespace PromptTemplate.Token

variable {t a content : Text} {s : Span}

theorem TagAt.after_clear {p c : Nat} {found : Tag} (h : TagAt t p c found)
    (hclear : Clear a.reverse) (b : Text) :
    TagAt (a ++ (t ++ b)) (a.length + p) (a.length + c) found := by
  obtain ⟨before, content, rest, rfl, rfl, rfl, hfree, hpairless, hread⟩ := tagAt_iff_split.mp h
  apply tagAt_iff_split.mpr
  refine ⟨a ++ before, content, rest ++ b, by simp, by simp, by simp; omega, ?_, hpairless, hread⟩
  rw [List.reverse_append, escaped_append hclear, hfree]

theorem tokenize_untagged (hne : t ≠ []) (h : ∀ p c found, ¬ TagAt t p c found) :
    tokenize t = [.text t ⟨0, t.length⟩] := by
  have htexts := all_isText_iff.mpr h
  have htile := tokenize_tile t
  have hchain := tokenize_separated t
  cases htokens : tokenize t with
  | nil =>
      rw [htokens] at htile
      exact absurd (List.length_eq_zero_iff.mp htile.symm) hne
  | cons token rest =>
      rw [htokens] at htexts htile hchain
      cases rest with
      | cons next rest =>
          have hboth := (List.isChain_cons_cons.mp hchain).1
          exact absurd ⟨htexts token (by simp), htexts next (by simp)⟩ hboth
      | nil =>
          obtain ⟨hstart, -, hstop⟩ := htile
          have hplace : token.InPlace t := inPlace_of_mem_tokenize (by simp [htokens])
          cases token with
          | tag found s => exact absurd (htexts _ List.mem_cons_self) (by simp [isText])
          | text content s =>
              obtain ⟨start, stop⟩ := s
              obtain rfl : start = 0 := hstart
              obtain rfl : stop = t.length := hstop
              have hwhole : t = content := by simpa [InPlace, Span.slice] using hplace
              rw [← hwhole]

theorem Closed.clear {before : Text} (h : Closed before) : Clear before := by
  intro c hc
  obtain rfl : c = '}' := h c hc
  decide

theorem disjoint_of_mem {token other : Token} (h : token ∈ tokenize t) (h' : other ∈ tokenize t)
    (hne : token ≠ other) :
    token.span.stop ≤ other.span.start ∨ other.span.stop ≤ token.span.start := by
  have hordered : (tokenize t).Pairwise fun a b =>
      a.span.stop ≤ b.span.start ∨ b.span.stop ≤ a.span.start :=
    (tokenize_ordered t).imp Or.inl
  have : Std.Symm fun a b : Token =>
      a.span.stop ≤ b.span.start ∨ b.span.stop ≤ a.span.start := ⟨fun _ _ => Or.symm⟩
  exact hordered.forall h h' hne

theorem text_stays_text (h : .text content s ∈ tokenize t) :
    tokenize content = [.text content ⟨0, content.length⟩] := by
  obtain ⟨a, b, rfl, hclosed, hne, rfl⟩ := text_split h
  refine tokenize_untagged hne fun p c found hat => ?_
  have hinside : c + 1 < content.length := (List.getElem?_eq_some_iff.mp hat.closed.2).1
  have hbehind : p + 2 ≤ c := hat.behind
  have htag : .tag found ⟨a.length + p, a.length + c + 2⟩ ∈ tokenize (a ++ (content ++ b)) :=
    (tag_mem_tokenize_iff ..).mpr ⟨_, hat.after_clear hclosed.clear b, rfl⟩
  rcases disjoint_of_mem h htag (by simp) with hover | hover
  · simp only [span] at hover
    omega
  · simp only [span] at hover
    omega

theorem text_stays_text_of_open_braces :
    let t := "\\\x7b\x7bx\x7d\x7d \x7b\x7b y \x7b\x7bb\x7d\x7d".toList
    let content := "\\\x7b\x7bx\x7d\x7d \x7b\x7b y ".toList
    .text content ⟨0, 12⟩ ∈ tokenize t ∧ tokenize content = [.text content ⟨0, 12⟩] := by
  intro t content
  have h : .text content ⟨0, 12⟩ ∈ tokenize t := by decide +kernel
  exact ⟨h, text_stays_text h⟩

end PromptTemplate.Token
