import Mathlib.Data.List.Sort
import PromptTemplate.Proofs.Evaluation.Seam
import PromptTemplate.Proofs.Tag.Reading
import PromptTemplate.Proofs.Token.Scan

namespace PromptTemplate.Piece

def holes (pos : Nat) : List Piece → List Token
  | [] => []
  | .hole key :: ps =>
      .tag (.variable key) ⟨pos, pos + (placeholder key).length⟩ ::
        holes (pos + (placeholder key).length) ps
  | .fixed content :: ps => holes (pos + content.length) ps
  | .value t :: ps => holes (pos + (Escape.text t).length) ps

/-- What stands before a placeholder escapes it. -/
def Swallowed (ps : List Piece) : Prop :=
  ∃ front key back, ps = front ++ .hole key :: back ∧ Token.escaped (joined front).reverse

/-- A tag whose pairs of braces both lie across seams. -/
def Assembled (ps : List Piece) : Prop :=
  ∃ front middle back before content after found, ps = front ++ (middle ++ back) ∧
    joined front = before ++ ['{'] ∧ joined middle = '{' :: content ++ ['}'] ∧
    joined back = '}' :: after ∧ Token.escaped before.reverse = false ∧
    (∀ d, ¬ Text.PairAt '}' content d) ∧ Tag.read? content = some found

theorem holes_cons (pos : Nat) (p : Piece) (ps : List Piece) :
    holes pos (p :: ps) =
      (match p with
        | .hole key => [.tag (.variable key) ⟨pos, pos + (placeholder key).length⟩]
        | _ => []) ++ holes (pos + p.text.length) ps := by
  cases p <;> rfl

theorem mem_holes_iff (pos : Nat) {ps : List Piece} {token : Token} :
    token ∈ holes pos ps ↔ ∃ front key back, ps = front ++ .hole key :: back ∧
      token = .tag (.variable key) ⟨pos + (joined front).length,
        pos + (joined front).length + (placeholder key).length⟩ := by
  induction ps generalizing pos with
  | nil => simp [holes]
  | cons p ps ih =>
      rw [holes_cons, List.mem_append, ih]
      constructor
      · rintro (hhere | ⟨front, key, back, rfl, rfl⟩)
        · cases p with
          | hole key => exact ⟨[], key, ps, rfl, by simpa [joined] using hhere⟩
          | fixed content => simp at hhere
          | value t => simp at hhere
        · exact ⟨p :: front, key, back, rfl, by simp [joined_cons, Nat.add_assoc]⟩
      · rintro ⟨front, key, back, heq, rfl⟩
        cases front with
        | nil =>
            cases heq
            exact .inl (by simp [joined])
        | cons q front =>
            obtain ⟨rfl, rfl⟩ := List.cons.inj heq
            exact .inr ⟨front, key, back, rfl, by simp [joined_cons, Nat.add_assoc]⟩

theorem holes_pairwise {pos : Nat} {ps : List Piece} :
    (holes pos ps).Pairwise (fun a b => a.span.start < b.span.start) := by
  induction ps generalizing pos with
  | nil => exact .nil
  | cons p ps ih =>
      cases p with
      | fixed content => exact ih
      | value t => exact ih
      | hole key =>
          refine List.pairwise_cons.mpr ⟨fun token htoken => ?_, ih⟩
          obtain ⟨front, key', back, -, rfl⟩ := (mem_holes_iff _).mp htoken
          simp [Token.span, placeholder]
          omega

variable {ps : List Piece}

theorem tagAt_hole {front back : List Piece} {key : Text} (hkey : Clean (.hole key))
    (hfree : Token.escaped (joined front).reverse = false) :
    Token.TagAt (joined (front ++ .hole key :: back)) (joined front).length
      ((joined front).length + 2 + key.length) (.variable key) := by
  refine Token.tagAt_iff_split.mpr ⟨joined front, key, joined back, ?_, rfl, rfl, hfree, ?_,
    Tag.read?_of_isKey hkey.1 hkey.2⟩
  · simp [joined_append, joined_cons, text, placeholder]
  · intro d hd
    exact notMem_key hkey.1 (by decide) (List.mem_of_getElem? hd.1)

theorem read?_of_close_inside {p : Piece} {before content rest after : Text} {j : Nat}
    {found : Tag} (hp : p.Clean)
    (hsplit : before ++ (p.text ++ after) = '{' :: (content ++ '}' :: '}' :: rest))
    (hlen : content.length + 1 = before.length + j) (hclose : Text.PairAt '}' p.text j) :
    Tag.read? content ≠ some found := by
  intro hread
  -- a value has them behind a backslash or another brace, and a placeholder behind its key
  rcases pairAt_close hp hclose with ⟨i, rfl, hi⟩ | ⟨key, rfl, rfl⟩
  · obtain rfl | ⟨front, c, rfl⟩ := List.eq_nil_or_concat content
    · have hnone : Tag.read? [] = none := rfl
      rw [hnone] at hread
      cases hread
    · have hlast : p.text[i]? = some c := by
        obtain ⟨d, hd⟩ : ∃ d, p.text[i]? = some d := by
          rcases hi with hi | hi <;> exact ⟨_, hi⟩
        have hwithin := Text.getElem?_within hd before after
        rw [hsplit, show before.length + i = front.length + 1 by simp at hlen; omega] at hwithin
        simpa [hd, eq_comm] using hwithin
      have hc := Token.last_of_read? (by simpa using hread)
      rw [hlast] at hi
      rcases hi with hi | hi
      all_goals
        obtain rfl := Option.some.inj hi
        revert hc
        unfold Text.IsQuote
        decide
  · have hkey : Token.Plain key := Token.plain_key hp.1
    have hsplit' : (before ++ '{' :: '{' :: key) ++ ('}' :: '}' :: after) =
        ('{' :: content) ++ ('}' :: '}' :: rest) := by
      simpa [text, placeholder] using hsplit
    obtain ⟨hcontent, -⟩ := List.append_inj hsplit' (by simp; omega)
    cases before with
    | nil =>
        obtain rfl : '{' :: key = content := by simpa using hcontent
        have hnone : Tag.read? ('{' :: key) = none := Token.read?_brace [] hkey
        rw [hnone] at hread
        cases hread
    | cons b before =>
        obtain rfl : (before ++ ['{']) ++ '{' :: key = content := by
          simpa using (List.cons.inj hcontent).2
        rw [Token.read?_brace _ hkey] at hread
        cases hread

theorem hole_or_assembled {q c : Nat} {found : Tag} (hclean : ∀ p ∈ ps, p.Clean)
    (h : Token.TagAt (joined ps) q c found) :
    (∃ front key back, ps = front ++ .hole key :: back ∧ q = (joined front).length) ∨
      Assembled ps := by
  obtain ⟨before, content, rest, hsplit, rfl, rfl, hfree, hnone, hread⟩ :=
    Token.tagAt_iff_split.mp h
  rcases pairAt_joined h.opened with ⟨front, p, back, j, rfl, hq, hp⟩ |
    ⟨front, tail, a, r, rfl, hq, hfront, htail⟩
  -- braces within a value are escaped, so a tag that begins in a piece is a placeholder
  · rcases pairAt_open (hclean p (by simp)) hp with hesc | ⟨rfl, key, rfl⟩
    · refine absurd ?_ h.free
      rw [joined_append, joined_cons, hq]
      exact hesc.within _ _
    · exact .inl ⟨front, key, back, rfl, hq⟩
  · right
    rw [joined_append, hfront, htail, List.append_assoc, List.append_assoc] at hsplit
    obtain ⟨rfl, hrest⟩ := List.append_inj hsplit hq.symm
    -- the tag begins at a seam, and its closing braces are looked for behind that seam
    obtain rfl : r = content ++ '}' :: '}' :: rest := by simpa using hrest
    have hclose : Text.PairAt '}' (joined tail) (content.length + 1) :=
      Text.pairAt_iff_split.mpr ⟨'{' :: content, rest, rfl, htail⟩
    rcases pairAt_joined hclose with ⟨mid, p, back, j, rfl, hk, hp⟩ |
      ⟨middle, back, b, r', rfl, hk, hmiddle, hback⟩
    · rw [joined_append, joined_cons] at htail
      exact absurd hread (read?_of_close_inside (hclean p (by simp)) htail hk hp)
    · rw [joined_append, hmiddle, hback, List.append_assoc, ← List.cons_append] at htail
      obtain ⟨rfl, -⟩ := List.append_inj htail hk.symm
      exact ⟨front, middle, back, a, content, r', found, rfl, hfront, hmiddle, hback, hfree, hnone,
        hread⟩

theorem tagAt_of_assembled (h : Assembled ps) :
    ∃ q c found, Token.TagAt (joined ps) q c found ∧
      ∀ front key back, ps = front ++ .hole key :: back → (joined front).length ≠ q := by
  obtain ⟨front, middle, back, before, content, after, found, rfl, hfront, hmiddle, hback, hfree,
    hnone, hread⟩ := h
  refine ⟨_, _, found, Token.tagAt_iff_split.mpr
    ⟨before, content, after, ?_, rfl, rfl, hfree, hnone, hread⟩, ?_⟩
  · simp [joined_append, hfront, hmiddle, hback]
  · intro front' key back' heq hlen
    have hseam : (joined front).length = before.length + 1 := by simp [hfront]
    rcases List.append_eq_append_iff.mp heq with ⟨gap, rfl, -⟩ | ⟨gap, rfl, hgap⟩
    · rw [joined_append, List.length_append] at hlen
      omega
    · cases gap with
      | nil =>
          simp only [List.append_nil] at hseam
          omega
      | cons p gap =>
          obtain ⟨rfl, -⟩ := List.cons.inj hgap
          simp [joined_append, joined_cons, text, placeholder] at hseam
          omega

theorem tags_joined_iff (hclean : ∀ p ∈ ps, p.Clean) :
    Token.tags (joined ps) = holes 0 ps ↔ ¬ Swallowed ps ∧ ¬ Assembled ps := by
  constructor
  · intro heq
    refine ⟨?_, ?_⟩
    · rintro ⟨front, key, back, rfl, hesc⟩
      have hmem := (mem_holes_iff 0).mpr ⟨front, key, back, rfl, rfl⟩
      rw [← heq] at hmem
      obtain ⟨p, c, found, htoken, hat⟩ := Token.mem_tags_iff.mp hmem
      simp only [Nat.zero_add, Token.tag.injEq, Span.mk.injEq] at htoken
      obtain ⟨-, rfl, -⟩ := htoken
      refine hat.free ?_
      rw [joined_append]
      exact (Token.escapedAt_append_iff _ _).mpr hesc
    · intro hassembled
      obtain ⟨q, c, found, hat, hne⟩ := tagAt_of_assembled hassembled
      have hmem := Token.mem_tags_iff.mpr ⟨q, c, found, rfl, hat⟩
      rw [heq] at hmem
      obtain ⟨front, key, back, hps, htoken⟩ := (mem_holes_iff _).mp hmem
      simp only [Nat.zero_add, Token.tag.injEq, Span.mk.injEq] at htoken
      exact hne front key back hps htoken.2.1.symm
  · rintro ⟨hswallowed, hassembled⟩
    have hhole (front back : List Piece) (key : Text) (hps : ps = front ++ .hole key :: back) :
        Token.TagAt (joined ps) (joined front).length ((joined front).length + 2 + key.length)
          (.variable key) := by
      subst hps
      refine tagAt_hole (hclean _ (by simp)) (Bool.eq_false_iff.mpr fun hesc => ?_)
      exact hswallowed ⟨front, key, back, rfl, hesc⟩
    have hspan (front : List Piece) (key : Text) :
        (joined front).length + 2 + key.length + 2 =
          0 + (joined front).length + (placeholder key).length := by
      simp [placeholder]
      omega
    let r (a b : Token) : Prop := a.span.start < b.span.start
    have : Std.Antisymm r := ⟨fun a b h h' => absurd h' (Nat.lt_asymm h)⟩
    have : Std.Irrefl r := ⟨fun a => Nat.lt_irrefl _⟩
    refine List.Pairwise.eq_of_mem_iff (r := r) (Token.tags_pairwise _) holes_pairwise ?_
    intro token
    rw [Token.mem_tags_iff, mem_holes_iff]
    constructor
    · rintro ⟨q, c, found, rfl, hat⟩
      rcases hole_or_assembled hclean hat with ⟨front, key, back, hps, rfl⟩ | hassembly
      · obtain ⟨rfl, rfl⟩ := hat.unique (hhole front back key hps)
        exact ⟨front, key, back, hps, by rw [hspan, Nat.zero_add]⟩
      · exact absurd hassembly hassembled
    · rintro ⟨front, key, back, hps, rfl⟩
      exact ⟨_, _, _, by rw [hspan, Nat.zero_add], hhole front back key hps⟩

theorem last_of_joined {front : List Piece} {c : Char} (h : (joined front).getLast? = some c) :
    ∃ p ∈ front, p.text.getLast? = some c := by
  induction front with
  | nil => simp [joined] at h
  | cons p front ih =>
      rw [joined_cons, List.getLast?_append] at h
      rcases Option.or_eq_some_iff.mp h with hrest | ⟨-, hhead⟩
      · obtain ⟨q, hq, hlast⟩ := ih hrest
        exact ⟨q, List.mem_cons_of_mem _ hq, hlast⟩
      · exact ⟨p, List.mem_cons_self, hhead⟩

theorem tags_joined_of_ends (hclean : ∀ p ∈ ps, p.Clean)
    (hends : ∀ t, .value t ∈ ps → t.getLast? ≠ some '{' ∧ t.getLast? ≠ some '\\') :
    Token.tags (joined ps) = holes 0 ps := by
  have hfront {front back : List Piece} {c : Char} (hps : ps = front ++ back)
      (hlast : (joined front).getLast? = some c) : c ≠ '{' ∧ c ≠ '\\' := by
    obtain ⟨p, hp, hlast⟩ := last_of_joined hlast
    have hmem : p ∈ ps := hps ▸ List.mem_append_left back hp
    have hclean := hclean p hmem
    cases p with
    | fixed content =>
        have hc := List.mem_of_getLast? hlast
        exact ⟨fun h => hclean.1 (h ▸ hc), fun h => hclean.2.2 (h ▸ hc)⟩
    | value t =>
        have hlast : t.getLast? = some c := (Escape.getLast?_text t).symm.trans hlast
        have hends := hends t hmem
        exact ⟨fun h => hends.1 (h ▸ hlast), fun h => hends.2 (h ▸ hlast)⟩
    | hole key =>
        have hsplit : (hole key).text = ('{' :: '{' :: key ++ ['}']) ++ ['}'] := by
          simp [text, placeholder]
        rw [hsplit, List.getLast?_append] at hlast
        have hc : c = '}' := by simpa [eq_comm] using hlast
        exact ⟨by simp [hc], by simp [hc]⟩
  refine (tags_joined_iff hclean).mpr ⟨?_, ?_⟩
  · rintro ⟨front, key, back, hps, hesc⟩
    unfold Token.escaped at hesc
    split at hesc
    · rename_i r hr
      exact (hfront hps (c := '\\') (by rw [← List.head?_reverse, hr]; rfl)).2 rfl
    · rename_i r hr
      exact (hfront hps (c := '{') (by rw [← List.head?_reverse, hr]; rfl)).1 rfl
    · simp at hesc
  · rintro ⟨front, middle, back, before, content, after, found, hps, hopen, -⟩
    exact (hfront hps (c := '{') (by simp [hopen])).1 rfl

end PromptTemplate.Piece
