import PromptTemplate.Proofs.Token.Position

namespace PromptTemplate.Token

open Text (PairAt)

theorem tagHere?_split {before t rest : Text} {found : Tag} {n : Nat}
    (h : tagHere? before t = some (found, n, rest)) :
    (t.take (n + 4)).length = n + 4 ∧ t = t.take (n + 4) ++ rest := by
  obtain ⟨-, content, rfl, rfl, -, -⟩ := tagHere?_eq_some_iff.mp h
  rw [take_braced]
  exact ⟨by simp, by simp⟩

theorem scan_nil (before run : Text) (pos : Nat) : scan before run pos [] = flush run pos := by
  rw [scan]
  rfl

theorem scan_cons {before run : Text} {pos : Nat} {c : Char} {t : Text}
    (h : tagHere? before (c :: t) = none) :
    scan before run pos (c :: t) = scan (c :: before) (c :: run) (pos + 1) t := by
  rw [scan]
  split
  · rename_i hhere
    simp [h] at hhere
  · rfl

theorem scan_tag {before run t rest : Text} {pos n : Nat} {found : Tag}
    (h : tagHere? before t = some (found, n, rest)) :
    scan before run pos t = flush run pos ++ .tag found ⟨pos, pos + n + 4⟩ ::
      scan ((t.take (n + 4)).reverse ++ before) [] (pos + n + 4) rest := by
  rw [scan]
  split
  · rename_i hhere
    rw [h] at hhere
    cases hhere
    rfl
  · rename_i hhere
    simp [h] at hhere

variable {t : Text} {brace : Char} {start pos p q : Nat} {close : Option Nat}

theorem pairAt_toArray_iff :
    (t.toArray[p]? = some brace && t.toArray[p + 1]? = some brace) = true ↔ PairAt brace t p := by
  simp [PairAt]

theorem pairFrom?_eq_some_iff : pairFrom? brace t.toArray pos = some p ↔
    pos ≤ p ∧ PairAt brace t p ∧ ∀ d, pos ≤ d → d < p → ¬ PairAt brace t d := by
  fun_induction pairFrom? brace t.toArray pos with
  | case1 pos hlt hpair =>
      rw [pairAt_toArray_iff] at hpair
      constructor
      · rintro ⟨⟩
        exact ⟨Nat.le_refl _, hpair, fun d hd hlt => by omega⟩
      · rintro ⟨hle, -, hnone⟩
        rcases Nat.eq_or_lt_of_le hle with rfl | hlt
        · rfl
        · exact absurd hpair (hnone pos (Nat.le_refl _) hlt)
  | case2 pos hlt hpair ih =>
      rw [pairAt_toArray_iff] at hpair
      rw [ih]
      constructor
      · rintro ⟨hle, hp, hnone⟩
        refine ⟨by omega, hp, fun d hd hlt => ?_⟩
        rcases Nat.eq_or_lt_of_le hd with rfl | hgt
        · exact hpair
        · exact hnone d hgt hlt
      · rintro ⟨hle, hp, hnone⟩
        have hne : pos ≠ p := by
          rintro rfl
          exact hpair hp
        exact ⟨by omega, hp, fun d hd => hnone d (by omega)⟩
  | case3 pos hend =>
      simp only [List.size_toArray] at hend
      refine iff_of_false (by simp) ?_
      rintro ⟨hle, hp, -⟩
      have := (List.getElem?_eq_some_iff.mp hp.2).1
      omega

theorem pairFrom?_eq_none_iff :
    pairFrom? brace t.toArray pos = none ↔ ∀ d, pos ≤ d → ¬ PairAt brace t d := by
  constructor
  · intro h d
    induction d using Nat.strongRecOn with
    | ind d ih =>
        intro hd hpair
        have hfirst := pairFrom?_eq_some_iff.mpr ⟨hd, hpair, fun e he hlt => ih e hlt he⟩
        rw [h] at hfirst
        cases hfirst
  · intro h
    cases hp : pairFrom? brace t.toArray pos with
    | none => rfl
    | some p =>
        obtain ⟨hle, hpair, -⟩ := pairFrom?_eq_some_iff.mp hp
        exact absurd hpair (h p hle)

theorem slice_toArray (t : Text) (start stop : Nat) :
    slice t.toArray start stop = (t.drop start).take (stop - start) := by
  simp [slice]

theorem flush_run (hpending : start ≤ pos) (hwithin : pos ≤ t.length) :
    flush ((t.take pos).drop start).reverse pos = textBetween t.toArray start pos := by
  have hslice : slice t.toArray start pos = (t.take pos).drop start := by
    rw [slice_toArray, List.drop_take]
  have hlen : ((t.take pos).drop start).length = pos - start := by
    simp only [List.length_drop, List.length_take]
    omega
  unfold flush textBetween
  rw [List.reverse_reverse, List.length_reverse, hlen, ← hslice, Nat.sub_sub_self hpending]
  by_cases hlt : start < pos
  · have hne : ¬ (slice t.toArray start pos).reverse.isEmpty := by
      rw [hslice, List.isEmpty_iff_length_eq_zero, List.length_reverse, hlen]
      omega
    rw [if_neg hne, if_pos hlt]
  · have hempty : (slice t.toArray start pos).reverse.isEmpty := by
      rw [hslice, List.isEmpty_iff_length_eq_zero, List.length_reverse, hlen]
      omega
    rw [if_pos hempty, if_neg hlt]

def scanAt (t : Text) (start pos : Nat) : List Token :=
  scan (t.take pos).reverse ((t.take pos).drop start).reverse pos (t.drop pos)

theorem tagAt_iff_take {c : Nat} {found : Tag} (hwithin : pos ≤ t.length) :
    TagAt t pos c found ↔ ∃ n rest,
      tagHere? (t.take pos).reverse (t.drop pos) = some (found, n, rest) ∧ c = pos + 2 + n := by
  have h := @tagAt_append_iff (t.take pos) (t.drop pos) c found
  rwa [List.take_append_drop, List.length_take_of_le hwithin] at h

theorem scanAt_succ (hpending : start ≤ pos) (hlt : pos < t.length)
    (h : ∀ c found, ¬ TagAt t pos c found) : scanAt t start pos = scanAt t start (pos + 1) := by
  have hnone : tagHere? (t.take pos).reverse (t.drop pos) = none := by
    cases hhere : tagHere? (t.take pos).reverse (t.drop pos) with
    | none => rfl
    | some here =>
        obtain ⟨found, n, rest⟩ := here
        exact absurd ((tagAt_iff_take (Nat.le_of_lt hlt)).mpr ⟨n, rest, hhere, rfl⟩) (h _ _)
  have hlen : start ≤ (t.take pos).length := by
    rw [List.length_take_of_le (Nat.le_of_lt hlt)]
    exact hpending
  rw [List.drop_eq_getElem_cons hlt] at hnone
  have htake : t.take (pos + 1) = t.take pos ++ [t[pos]] := List.take_succ_eq_append_getElem hlt
  rw [scanAt, List.drop_eq_getElem_cons hlt, scan_cons hnone, scanAt, htake,
    List.drop_append_of_le_length hlen, List.reverse_append, List.reverse_append]
  rfl

theorem scanAt_skip (hpending : start ≤ pos) (hle : pos ≤ q) (hwithin : q ≤ t.length)
    (h : ∀ d c found, pos ≤ d → d < q → ¬ TagAt t d c found) :
    scanAt t start pos = scanAt t start q := by
  induction hle with
  | refl => rfl
  | @step q hle ih =>
      rw [ih (by omega) fun d c found hd hlt => h d c found hd (by omega)]
      exact scanAt_succ (Nat.le_trans hpending hle) hwithin
        fun c found => h q c found hle (by omega)

theorem scanAt_end (hpending : start ≤ t.length) :
    scanAt t start t.length = textBetween t.toArray start t.length := by
  rw [scanAt, List.drop_length, scan_nil, flush_run hpending (Nat.le_refl _)]

theorem scanAt_tag {c : Nat} {found : Tag} (hpending : start ≤ pos) (h : TagAt t pos c found) :
    scanAt t start pos =
      textBetween t.toArray start pos ++ .tag found ⟨pos, c + 2⟩ :: scanAt t (c + 2) (c + 2) := by
  have hwithin : pos ≤ t.length := Nat.le_of_lt (List.getElem?_eq_some_iff.mp h.opened.1).1
  obtain ⟨n, rest, hhere, rfl⟩ := (tagAt_iff_take hwithin).mp h
  obtain ⟨hlen, hsplit⟩ := tagHere?_split hhere
  have hstop : pos + n + 4 = pos + 2 + n + 2 := by omega
  have htake : t.take (pos + 2 + n + 2) = t.take pos ++ (t.drop pos).take (n + 4) := by
    rw [← List.take_add]
    congr 1
    omega
  have hrest : t.drop (pos + 2 + n + 2) = rest := by
    have hdrop := congrArg (List.drop (n + 4)) hsplit
    rw [List.drop_left' hlen, List.drop_drop] at hdrop
    rw [← hdrop]
    congr 1
    omega
  have hnil : (t.take (pos + 2 + n + 2)).drop (pos + 2 + n + 2) = [] :=
    List.drop_eq_nil_of_le (List.length_take_le _ _)
  rw [scanAt, scan_tag hhere, flush_run hpending hwithin, scanAt, hnil, htake, hrest, hstop,
    List.reverse_append, List.reverse_nil]

theorem slash_iff : (0 < p && t.toArray[p - 1]? = some '\\') = true ↔
    ∃ i, p = i + 1 ∧ t[i]? = some '\\' := by
  cases p <;> simp

/-- What the loop keeps up: its position is not that of the second of two escaped braces, and no
closing braces stand before those it remembers that could close a tag from here on. -/
structure Invariant (t : Text) (start pos : Nat) (close : Option Nat) : Prop where
  pending : start ≤ pos
  within : pos ≤ t.length
  free : ∀ i, pos = i + 2 → t[i]? = some '\\' → t[i + 1]? ≠ some '{'
  nearest : ∀ c, close = some c →
    PairAt '}' t c ∧ ∀ d, pos + 2 ≤ d → d < c → ¬ PairAt '}' t d

namespace Invariant

theorem initial (t : Text) : Invariant t 0 0 none :=
  ⟨Nat.le_refl _, Nat.zero_le _, by omega, by simp⟩

theorem closeFrom?_eq_some (h : Invariant t start pos close) (hle : pos ≤ p) {c : Nat}
    (hc : closeFrom? t.toArray close (p + 2) = some c) :
    p + 2 ≤ c ∧ PairAt '}' t c ∧ ∀ d, p + 2 ≤ d → d < c → ¬ PairAt '}' t d := by
  unfold closeFrom? at hc
  split at hc
  · rename_i k
    split at hc
    · rename_i hahead
      cases hc
      obtain ⟨hpair, hnone⟩ := h.nearest _ rfl
      exact ⟨hahead, hpair, fun d hd => hnone d (by omega)⟩
    · exact pairFrom?_eq_some_iff.mp hc
  · exact pairFrom?_eq_some_iff.mp hc

theorem closeFrom?_eq_none (hc : closeFrom? t.toArray close (p + 2) = none) :
    ∀ d, p + 2 ≤ d → ¬ PairAt '}' t d := by
  unfold closeFrom? at hc
  split at hc
  · split at hc
    · cases hc
    · exact pairFrom?_eq_none_iff.mp hc
  · exact pairFrom?_eq_none_iff.mp hc

theorem not_escapedAt (h : Invariant t start pos close) (hle : pos ≤ p) (hopen : PairAt '{' t p)
    (hnone : ∀ d, pos ≤ d → d < p → ¬ PairAt '{' t d)
    (hslash : ¬ ∃ i, p = i + 1 ∧ t[i]? = some '\\') : ¬ EscapedAt t p := by
  rintro (hnear | ⟨i, rfl, hfar, hbrace⟩)
  · exact hslash hnear
  · rcases Nat.eq_or_lt_of_le hle with heq | hlt
    · exact h.free i heq hfar hbrace
    · exact hnone (i + 1) (by omega) (by omega) ⟨hbrace, hopen.1⟩

theorem escaped (h : Invariant t start pos close) (hle : pos ≤ p) (hopen : PairAt '{' t p) :
    Invariant t start (p + 2) close := by
  have hlt := (List.getElem?_eq_some_iff.mp hopen.2).1
  refine ⟨Nat.le_trans h.pending (by omega), hlt, ?_, ?_⟩
  · intro i hi hslash
    obtain rfl : p = i := by omega
    rw [hopen.1] at hslash
    simp at hslash
  · intro c hc
    obtain ⟨hpair, hnone⟩ := h.nearest c hc
    exact ⟨hpair, fun d hd => hnone d (by omega)⟩

theorem rejected (h : Invariant t start pos close) (hle : pos ≤ p) (hopen : PairAt '{' t p)
    (hfree : ¬ EscapedAt t p) {c : Nat} (hc : closeFrom? t.toArray close (p + 2) = some c) :
    Invariant t start (p + 1) (some c) := by
  have hlt := (List.getElem?_eq_some_iff.mp hopen.2).1
  obtain ⟨hbehind, hpair, hnone⟩ := h.closeFrom?_eq_some hle hc
  refine ⟨Nat.le_trans h.pending (by omega), by omega, ?_, ?_⟩
  · intro i hi hslash
    exact absurd (.inl ⟨i, by omega, hslash⟩) hfree
  · rintro _ ⟨⟩
    exact ⟨hpair, fun d hd => hnone d (by omega)⟩

theorem accepted {c : Nat} {found : Tag} (h : TagAt t p c found) :
    Invariant t (c + 2) (c + 2) (some c) := by
  have hlt := (List.getElem?_eq_some_iff.mp h.closed.2).1
  refine ⟨Nat.le_refl _, hlt, ?_, ?_⟩
  · intro i hi hslash
    obtain rfl : c = i := by omega
    rw [h.closed.1] at hslash
    simp at hslash
  · rintro _ ⟨⟩
    exact ⟨h.closed, fun d hd hlt => by omega⟩

end Invariant

/-- From any position at which the invariant holds, the loop finds what a scan finds that looks for
a tag at every character. -/
theorem loop_eq_scanAt (h : Invariant t start pos close) :
    loop t.toArray start pos close = scanAt t start pos := by
  fun_induction loop t.toArray start pos close with
  | case1 start pos close hnone =>
      rw [pairFrom?_eq_none_iff] at hnone
      rw [scanAt_skip h.pending h.within (Nat.le_refl _), List.size_toArray,
        scanAt_end (Nat.le_trans h.pending h.within)]
      exact fun d c found hd _ hat => hnone d hd hat.opened
  | case2 start pos close p hopen hslash ih =>
      obtain ⟨hle, hopen, hnone⟩ := pairFrom?_eq_some_iff.mp hopen
      obtain ⟨i, rfl, hescape⟩ := slash_iff.mp hslash
      have hnext := h.escaped hle hopen
      rw [ih hnext, scanAt_skip h.pending (Nat.le_trans hle (by omega)) hnext.within]
      -- neither brace of the pair begins a tag: the backslash escapes them both
      intro d c found hd hlt hat
      rcases Nat.lt_or_ge d (i + 1) with hbefore | hge
      · exact hnone d hd hbefore hat.opened
      · obtain rfl | rfl : d = i + 1 ∨ d = i + 2 := by omega
        · exact hat.free (.inl ⟨i, rfl, hescape⟩)
        · exact hat.free (.inr ⟨i, rfl, hescape, hopen.1⟩)
  | case3 start pos close p hopen hslash hclose =>
      obtain ⟨hle, hopen, hnone⟩ := pairFrom?_eq_some_iff.mp hopen
      have hunclosed := Invariant.closeFrom?_eq_none hclose
      rw [scanAt_skip h.pending h.within (Nat.le_refl _), List.size_toArray,
        scanAt_end (Nat.le_trans h.pending h.within)]
      intro d c found hd _ hat
      have hbehind := hat.behind
      rcases Nat.lt_or_ge d p with hbefore | hge
      · exact hnone d hd hbefore hat.opened
      · exact hunclosed c (by omega) hat.closed
  | case4 start pos close p hopen hslash c hclose hread ih =>
      obtain ⟨hle, hopen, hnone⟩ := pairFrom?_eq_some_iff.mp hopen
      have hfree := h.not_escapedAt hle hopen hnone (mt slash_iff.mpr hslash)
      have hnext := h.rejected hle hopen hfree hclose
      obtain ⟨hbehind, hpair, hnearest⟩ := h.closeFrom?_eq_some hle hclose
      rw [ih hnext, scanAt_skip h.pending (Nat.le_trans hle (by omega)) hnext.within]
      -- a tag at `p` would have its close at `c`, and what stands before `c` does not read
      intro d e found hd hlt hat
      rcases Nat.lt_or_ge d p with hbefore | hge
      · exact hnone d hd hbefore hat.opened
      · obtain rfl : d = p := by omega
        obtain rfl := hat.stop_eq hbehind hpair hnearest
        have hthere := hat.read
        rw [← slice_toArray, hread] at hthere
        cases hthere
  | case5 start pos close p hopen hslash c hclose found hread ih =>
      obtain ⟨hle, hopen, hnone⟩ := pairFrom?_eq_some_iff.mp hopen
      have hfree := h.not_escapedAt hle hopen hnone (mt slash_iff.mpr hslash)
      obtain ⟨hbehind, hpair, hnearest⟩ := h.closeFrom?_eq_some hle hclose
      rw [slice_toArray] at hread
      have hat : TagAt t p c found := ⟨hopen, hfree, hbehind, hpair, hnearest, hread⟩
      rw [ih (.accepted hat), scanAt_skip h.pending hle,
        scanAt_tag (Nat.le_trans h.pending hle) hat]
      · exact Nat.le_of_lt (List.getElem?_eq_some_iff.mp hopen.1).1
      · exact fun d c found hd hlt hat => hnone d hd hlt hat.opened

theorem tokenize_eq_scan (t : Text) : tokenize t = scan [] [] 0 t := by
  rw [tokenize, loop_eq_scanAt (.initial t), scanAt]
  rfl

theorem tokenize_nil : tokenize [] = [] := by
  rw [tokenize_eq_scan, scan_nil]
  rfl

end PromptTemplate.Token
