import PromptTemplate.Proofs.Template.Printing
import PromptTemplate.Proofs.Token.Tiling

namespace PromptTemplate.Token

variable {before run t u w content rest : Text} {pos : Nat}

theorem tagHere?_iff_pairless {n : Nat} {found : Tag} :
    tagHere? before t = some (found, n, rest) ↔
      escaped before = false ∧ ∃ content, content.length = n ∧
        t = '{' :: '{' :: content ++ '}' :: '}' :: rest ∧ (∀ d, ¬ Text.PairAt '}' content d) ∧
        Tag.read? content = some found := by
  rw [tagHere?_eq_some_iff]
  constructor
  · rintro ⟨hfree, content, rfl, hsplit, hnear, hread⟩
    exact ⟨hfree, content, rfl, hsplit, (nearest_iff hread).mp hnear, hread⟩
  · rintro ⟨hfree, content, rfl, hsplit, hpairless, hread⟩
    exact ⟨hfree, content, rfl, hsplit, (nearest_iff hread).mpr hpairless, hread⟩

theorem tagHere?_append {n : Nat} {found : Tag} (h : tagHere? before t = some (found, n, rest))
    (u : Text) : tagHere? before (t ++ u) = some (found, n, rest ++ u) := by
  obtain ⟨hfree, content, hn, rfl, hpairless, hread⟩ := tagHere?_iff_pairless.mp h
  exact tagHere?_iff_pairless.mpr ⟨hfree, content, hn, by simp, hpairless, hread⟩

/-- No tag begins in the first text that would end only in the second. -/
def Apart (t u : Text) : Prop :=
  ∀ before r, r ≠ [] → r <:+ t → tagHere? before r = none → tagHere? before (r ++ u) = none

theorem Apart.suffix {r : Text} (h : Apart t u) (hr : r <:+ t) : Apart r u :=
  fun before _ hne hsuffix hnone => h before _ hne (hsuffix.trans hr) hnone

-- by induction on the scan of the first text, whose last run of text is still open at the seam
theorem scan_append (h : Apart t u) :
    ∃ tokens last, scan before run pos t = tokens ++ flush last (pos + t.length) ∧
      scan before run pos (t ++ u) =
        tokens ++ scan (t.reverse ++ before) last (pos + t.length) u := by
  fun_induction scan before run pos t with
  | case1 before run pos t found n rest hhere source ih =>
      have hsource : source.length = n + 4 ∧ t = source ++ rest := tagHere?_split hhere
      obtain ⟨tokens, last, halone, hjoined⟩ := ih (h.suffix ⟨source, hsource.2.symm⟩)
      have hend : pos + n + 4 + rest.length = pos + t.length := by
        have := tagHere?_length hhere
        omega
      have hbefore : rest.reverse ++ (source.reverse ++ before) = t.reverse ++ before := by
        rw [hsource.2]
        simp
      have hsame : (t ++ u).take (n + 4) = source := by
        rw [hsource.2, List.append_assoc, List.take_left' hsource.1]
      refine ⟨flush run pos ++ .tag found ⟨pos, pos + n + 4⟩ :: tokens, last, ?_, ?_⟩
      · rw [halone, hend]
        simp
      · rw [scan_tag (tagHere?_append hhere u), hsame, hjoined, hend, hbefore]
        simp
  | case2 before run pos hnone => exact ⟨[], run, by simp, by simp⟩
  | case3 before run pos c r hnone ih =>
      obtain ⟨tokens, last, halone, hjoined⟩ := ih (h.suffix (List.suffix_cons c r))
      have hend : pos + 1 + r.length = pos + (c :: r).length := by
        rw [List.length_cons]
        omega
      refine ⟨tokens, last, by rw [halone, hend], ?_⟩
      have hjoint : tagHere? before (c :: (r ++ u)) = none :=
        h before (c :: r) (by simp) List.suffix_rfl hnone
      rw [List.cons_append, scan_cons hjoint, hjoined, hend]
      simp

theorem bare_flush (run : Text) (pos pos' : Nat) :
    (flush run pos).map bare = (flush run pos').map bare := by
  unfold flush
  split <;> rfl

theorem escaped_append (h : Clear before) (t : Text) : escaped (t ++ before) = escaped t := by
  match t with
  | [] => exact not_escaped_of_clear h
  | [c] =>
      cases before with
      | nil => rfl
      | cons d before =>
          have hd : d ≠ '\\' := (h d rfl).2
          rw [Bool.eq_iff_iff, List.singleton_append, escaped_cons_cons]
          unfold escaped
          split <;> simp_all
  | c :: d :: t => rw [Bool.eq_iff_iff, List.cons_append, List.cons_append, escaped_cons_cons,
      escaped_cons_cons]

theorem tagHere?_congr {before' : Text} (h : escaped before = escaped before') (t : Text) :
    tagHere? before t = tagHere? before' t := by
  unfold tagHere?
  rw [h]

theorem scan_clear (h : Clear before) (pos pos' : Nat) (front run t : Text) :
    (scan (front ++ before) run pos t).map bare = (scan front run pos' t).map bare := by
  have hsame (front t : Text) : tagHere? (front ++ before) t = tagHere? front t :=
    tagHere?_congr (escaped_append h front) t
  fun_induction scan front run pos' t generalizing pos with
  | case1 front run pos' t found n rest hhere source ih =>
      rw [scan_tag ((hsame front t).trans hhere), ← List.append_assoc, List.map_append,
        List.map_append, List.map_cons, List.map_cons, bare_flush run pos pos']
      exact congrArg (fun ts => _ ++ bare (.tag found _) :: ts) (ih (pos + n + 4))
  | case2 front run pos' hnone =>
      rw [scan_nil]
      exact bare_flush run pos pos'
  | case3 front run pos' c r hnone ih =>
      rw [scan_cons ((hsame front (c :: r)).trans hnone)]
      exact ih (pos + 1)

theorem scan_anew (h : Clear before) (pos : Nat) (t : Text) :
    (scan before [] pos t).map bare = (tokenize t).map bare := by
  rw [tokenize_eq_scan]
  exact scan_clear h pos 0 [] [] t

theorem clear_of_close (front before : Text) :
    Clear ((front ++ ['}', '}']).reverse ++ before) := by
  simp [Clear]

theorem isPrefix_of_read? {x y : Text} {found : Tag}
    (hpairless : ∀ d, ¬ Text.PairAt '}' content d) (hread : Tag.read? content = some found)
    (h : x ++ '}' :: '}' :: y = content ++ '}' :: '}' :: rest) : content <+: x := by
  have hnear : ∀ d < content.length, ¬ Text.PairAt '}' (content ++ '}' :: '}' :: rest) d :=
    (nearest_iff hread).mpr hpairless
  have hle : content.length ≤ x.length := by
    refine Nat.not_lt.mp fun hlt => hnear x.length hlt ?_
    exact Text.pairAt_iff_split.mpr ⟨x, y, rfl, h.symm⟩
  have hx : x <+: content ++ '}' :: '}' :: rest := ⟨'}' :: '}' :: y, h⟩
  exact List.prefix_of_prefix_length_le (List.prefix_append ..) hx hle

theorem apart_of_inside
    (h : ∀ r content rest found, r ≠ [] → r <:+ t →
      r ++ u = '{' :: '{' :: content ++ '}' :: '}' :: rest →
      (∀ d, ¬ Text.PairAt '}' content d) → Tag.read? content = some found →
      ∃ a, r = '{' :: '{' :: content ++ '}' :: '}' :: a) : Apart t u := by
  intro before r hne hsuffix hnone
  cases hhere : tagHere? before (r ++ u) with
  | none => rfl
  | some tag =>
      obtain ⟨found, n, rest⟩ := tag
      obtain ⟨hfree, content, hn, hsplit, hpairless, hread⟩ := tagHere?_iff_pairless.mp hhere
      obtain ⟨a, ha⟩ := h r content rest found hne hsuffix hsplit hpairless hread
      have hinside := tagHere?_iff_pairless.mpr ⟨hfree, content, hn, ha, hpairless, hread⟩
      simp [hnone] at hinside

theorem apart_of_close (front u : Text) : Apart (front ++ ['}', '}']) u := by
  refine apart_of_inside fun r content rest found hne hsuffix hsplit hpairless hread => ?_
  obtain ⟨y, rfl⟩ : ∃ y, r = y ++ ['}', '}'] := by
    obtain ⟨a, ha⟩ := hsuffix
    rcases List.append_eq_append_iff.mp ha with ⟨y, -, hy⟩ | ⟨y, -, hy⟩
    · exact ⟨y, hy⟩
    · have hclosing : ∀ c ∈ r, c = '}' := by
        intro c hc
        have hmem : c ∈ ['}', '}'] := by simp [hy, hc]
        simpa using hmem
      obtain ⟨c, r, rfl⟩ := List.exists_cons_of_ne_nil hne
      have hc := hclosing c List.mem_cons_self
      rw [hc] at hsplit
      exact absurd (List.cons.inj hsplit).1 (by decide)
  match y with
  | [] => simp at hsplit
  | [c] => simp at hsplit
  | c :: d :: y =>
      simp only [List.cons_append, List.append_assoc, List.nil_append, List.cons.injEq] at hsplit
      obtain ⟨rfl, rfl, hsplit⟩ := hsplit
      obtain ⟨z, rfl⟩ := isPrefix_of_read? hpairless hread hsplit
      rw [List.append_assoc, List.append_right_inj] at hsplit
      match z with
      | [] => exact ⟨[], by simp⟩
      | [e] =>
          obtain ⟨rfl, -⟩ := List.cons.inj hsplit
          exact ⟨['}'], by simp⟩
      | e :: f :: z =>
          simp only [List.cons_append, List.cons.injEq] at hsplit
          obtain ⟨rfl, rfl, -⟩ := hsplit
          exact ⟨z ++ ['}', '}'], by simp⟩

theorem close_before_brace {y after : Text} {found : Tag} (hw : Plain w)
    (hpairless : ∀ d, ¬ Text.PairAt '}' content d) (hread : Tag.read? content = some found)
    (h : y ++ '{' :: w ++ '}' :: '}' :: after = content ++ '}' :: '}' :: rest) :
    ∃ a, y = content ++ '}' :: '}' :: a := by
  obtain ⟨z, hz⟩ := isPrefix_of_read? hpairless hread h
  rw [← hz, List.append_assoc, List.append_right_inj] at h
  cases z with
  | nil =>
      rw [List.append_nil] at hz
      rw [hz, read?_brace y hw] at hread
      cases hread
  | cons e z =>
      obtain ⟨rfl, hclose⟩ : e = '}' ∧ z ++ '}' :: '}' :: after = '}' :: rest := by simpa using h
      rcases List.append_eq_append_iff.mp hz with ⟨a, rfl, ha⟩ | ⟨c, rfl, hc⟩
      · match a with
        | [] => exact absurd (List.cons.inj ha).1 (by decide)
        | [f] =>
            obtain ⟨-, rfl⟩ := List.cons.inj ha
            exact absurd (List.cons.inj hclose).1 (by decide)
        | f :: g :: a =>
            obtain ⟨rfl, rfl⟩ := List.cons.inj ha
            obtain ⟨rfl, -⟩ := List.cons.inj hclose
            exact ⟨a, rfl⟩
      · have hmem : '}' ∈ '{' :: w := by
          rw [hc]
          simp
        exact absurd hmem (by simpa using closing_notMem hw)

theorem apart_of_tag (hw : Plain w) (t after : Text) :
    Apart t ('{' :: '{' :: w ++ '}' :: '}' :: after) := by
  refine apart_of_inside fun r content rest found hne _ hsplit hpairless hread => ?_
  match r with
  | [] => exact absurd rfl hne
  | [c] =>
      have hsplit : [] ++ '{' :: w ++ '}' :: '}' :: after = content ++ '}' :: '}' :: rest :=
        (List.cons.inj (List.cons.inj hsplit).2).2
      obtain ⟨a, ha⟩ := close_before_brace hw hpairless hread hsplit
      simp at ha
  | c :: d :: r =>
      simp only [List.cons_append, List.cons.injEq] at hsplit
      obtain ⟨rfl, rfl, hinside⟩ := hsplit
      have hsplit : (r ++ ['{']) ++ '{' :: w ++ '}' :: '}' :: after =
          content ++ '}' :: '}' :: rest := by
        rw [← hinside]
        simp
      obtain ⟨a, ha⟩ := close_before_brace hw hpairless hread hsplit
      obtain rfl | ⟨a, f, rfl⟩ := List.eq_nil_or_concat a
      · have hlast := congrArg List.getLast? ha
        simp at hlast
      · have hinner : r ++ ['{'] = (content ++ '}' :: '}' :: a) ++ [f] := by simpa using ha
        exact ⟨a, by rw [(List.append_inj' hinner rfl).1]; rfl⟩

theorem close_of_last {found : Tag} {s : Span} (h : (tokenize t).getLast? = some (.tag found s)) :
    ∃ front, t = front ++ ['}', '}'] := by
  obtain ⟨tokens, htokens⟩ := List.getLast?_eq_some_iff.mp h
  have htile := tokenize_tile t
  rw [htokens, List.map_append, Span.tile_append] at htile
  obtain ⟨-, -, rfl, hlt, hstop⟩ := htile
  have hmem : .tag found s ∈ tokenize t := List.mem_of_getLast? h
  obtain ⟨content, hslice, -⟩ := inPlace_of_mem_tokenize hmem
  have hend := Span.slice_append_drop (t := t) (Nat.le_of_lt hlt)
  have hlength : s.stop = t.length := hstop
  have hsplit := List.take_append_drop s.start t
  simp only [span] at hend
  rw [hlength, List.drop_length, List.append_nil, hslice] at hend
  rw [← hend] at hsplit
  exact ⟨t.take s.start ++ '{' :: '{' :: content, by simpa using hsplit.symm⟩

theorem tokenize_append (h : t = [] ∨ ∃ found s, (tokenize t).getLast? = some (.tag found s))
    (u : Text) :
    (tokenize (t ++ u)).map bare = (tokenize t).map bare ++ (tokenize u).map bare := by
  rcases h with rfl | ⟨found, s, hlast⟩
  · rw [List.nil_append, tokenize_nil]
    rfl
  · obtain ⟨front, rfl⟩ := close_of_last hlast
    obtain ⟨tokens, last, halone, hjoined⟩ :=
      @scan_append [] [] (front ++ ['}', '}']) u 0 (apart_of_close front u)
    obtain rfl : last = [] := by
      cases last with
      | nil => rfl
      | cons c last =>
          rw [tokenize_eq_scan, halone] at hlast
          simp [flush] at hlast
    rw [tokenize_eq_scan, hjoined, tokenize_eq_scan, halone, List.map_append,
      scan_anew (clear_of_close front [])]
    simp [flush]

theorem not_escaped_of_notMem (h : '\\' ∉ before) : escaped before = false := by
  unfold escaped
  split
  · simp at h
  · simp at h
  · rfl

theorem tokenize_append_tag {found : Tag} (hspelled : found.Spelled w) (hw : Plain w)
    (hfree : escaped t.reverse = false) (after : Text) :
    (tokenize (t ++ '{' :: '{' :: w ++ '}' :: '}' :: after)).map bare =
      (tokenize t).map bare ++ .inr found :: (tokenize after).map bare := by
  have hpairless : ∀ d, ¬ Text.PairAt '}' w d := by
    intro d hd
    exact closing_notMem hw (List.mem_of_getElem? hd.1)
  have hhere : tagHere? (t.reverse ++ []) ('{' :: '{' :: w ++ '}' :: '}' :: after) =
      some (found, w.length, after) :=
    tagHere?_iff_pairless.mpr
      ⟨by simpa using hfree, w, rfl, rfl, hpairless, Tag.read?_of_spelled hspelled⟩
  obtain ⟨tokens, last, halone, hjoined⟩ :=
    @scan_append [] [] t ('{' :: '{' :: w ++ '}' :: '}' :: after) 0 (apart_of_tag hw t after)
  have hclear : Clear (('{' :: '{' :: w ++ ['}', '}']).reverse ++ (t.reverse ++ [])) :=
    clear_of_close ('{' :: '{' :: w) _
  rw [List.append_assoc, tokenize_eq_scan, hjoined, scan_tag hhere, take_braced,
    tokenize_eq_scan t, halone]
  simp only [List.map_append, List.map_cons, scan_anew hclear]
  simp [bare]

end PromptTemplate.Token
