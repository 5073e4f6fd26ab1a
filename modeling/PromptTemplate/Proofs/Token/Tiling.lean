import Mathlib.Data.List.Chain
import PromptTemplate.Proofs.Token.Scan

namespace PromptTemplate

namespace Span

def Tile : Nat → List Span → Nat → Prop
  | a, [], z => a = z
  | a, s :: ss, z => s.start = a ∧ a < s.stop ∧ Tile s.stop ss z

def Holds (t : Text) (s : Span) (found : Tag) : Prop :=
  ∃ content, s.slice t = '{' :: '{' :: content ++ ['}', '}'] ∧
    (∀ d < content.length, ¬ Text.PairAt '}' (content ++ ['}', '}']) d) ∧
    Tag.read? content = some found

variable {t : Text} {a z : Nat} {ss rest : List Span}

theorem tile_append : Tile a (ss ++ rest) z ↔ ∃ m, Tile a ss m ∧ Tile m rest z := by
  induction ss generalizing a with
  | nil => simp [Tile]
  | cons s ss ih => simp [Tile, ih, and_assoc]

theorem slice_append_drop {s : Span} (h : s.start ≤ s.stop) :
    s.slice t ++ t.drop s.stop = t.drop s.start := by
  have hdrop : t.drop s.stop = (t.drop s.start).drop (s.stop - s.start) := by
    rw [List.drop_drop, Nat.add_sub_cancel' h]
  rw [slice, hdrop, List.take_append_drop]

theorem slice_middle (before middle after : Text) :
    (⟨before.length, before.length + middle.length⟩ : Span).slice (before ++ (middle ++ after)) =
      middle := by
  simp [slice]

theorem Tile.slices (h : Tile a ss t.length) : ss.flatMap (slice · t) = t.drop a := by
  induction ss generalizing a with
  | nil =>
      obtain rfl : a = t.length := h
      simp
  | cons s ss ih =>
      obtain ⟨rfl, hlt, hrest⟩ := h
      rw [List.flatMap_cons, ih hrest, slice_append_drop (Nat.le_of_lt hlt)]

end Span

namespace Token

variable {before run t : Text} {pos : Nat}

theorem holds_of_tagAt {p c : Nat} {found : Tag} (h : TagAt t p c found) :
    Span.Holds t ⟨p, c + 2⟩ found := by
  obtain ⟨before, content, rest, rfl, rfl, rfl, -, hnone, hread⟩ := tagAt_iff_split.mp h
  refine ⟨content, ?_, (nearest_iff hread).mpr hnone, hread⟩
  have hmiddle := Span.slice_middle before ('{' :: '{' :: content ++ ['}', '}']) rest
  simpa [Nat.add_assoc, Nat.add_comm 2] using hmiddle

def InPlace (t : Text) : Token → Prop
  | .text content s => s.slice t = content
  | .tag found s => s.Holds t found

theorem flush_tile (h : run.length ≤ pos) :
    Span.Tile (pos - run.length) ((flush run pos).map span) pos := by
  unfold flush
  cases run with
  | nil => simp [Span.Tile]
  | cons c run =>
      rw [List.length_cons] at h
      refine ⟨rfl, ?_, rfl⟩
      simp only [span, List.length_cons]
      omega

theorem scan_tile (h : run.length ≤ pos) :
    Span.Tile (pos - run.length) ((scan before run pos t).map span) (pos + t.length) := by
  fun_induction scan before run pos t with
  | case1 before run pos t here n rest hhere source ih =>
      have hrest := ih (Nat.zero_le _)
      have hend : pos + n + 4 + rest.length = pos + t.length := by
        have := tagHere?_length hhere
        omega
      rw [hend] at hrest
      rw [List.map_append, Span.tile_append]
      refine ⟨pos, flush_tile h, rfl, ?_, hrest⟩
      simp only [span]
      omega
  | case2 before run pos hnone => exact flush_tile h
  | case3 before run pos c r hnone ih =>
      have hrest := ih (by simpa using h)
      rw [List.length_cons, Nat.add_sub_add_right] at hrest
      rwa [List.length_cons, Nat.add_comm r.length, ← Nat.add_assoc]

theorem text_mem_flush {content : Text} {s : Span} (h : .text content s ∈ flush run pos) :
    content = run.reverse ∧ s = ⟨pos - run.length, pos⟩ := by
  unfold flush at h
  split at h
  · simp at h
  · simpa using h

def Closed (before : Text) : Prop :=
  ∀ c ∈ before.head?, c = '}'

-- `run` is the end of what came before and began behind a tag, or behind nothing, so a text is cut
-- out of the template in one piece
theorem scan_text_split (hpos : pos = before.length)
    (hrun : ∃ old, before = run ++ old ∧ Closed old) {content : Text} {s : Span}
    (h : .text content s ∈ scan before run pos t) :
    ∃ a b, before.reverse ++ t = a ++ (content ++ b) ∧ Closed a.reverse ∧ content ≠ [] ∧
      s = ⟨a.length, a.length + content.length⟩ := by
  have hflush {run old : Text} (hclosed : Closed old) (t : Text)
      (h : .text content s ∈ flush run (run ++ old).length) :
      ∃ a b, (run ++ old).reverse ++ t = a ++ (content ++ b) ∧ Closed a.reverse ∧ content ≠ [] ∧
        s = ⟨a.length, a.length + content.length⟩ := by
    have hne : run ≠ [] := by
      rintro rfl
      simp [flush] at h
    obtain ⟨rfl, rfl⟩ := text_mem_flush h
    refine ⟨old.reverse, t, by simp, by simpa using hclosed, by simpa using hne, ?_⟩
    simp [Nat.add_comm]
  fun_induction scan before run pos t with
  | case1 before run pos t here n rest hhere source ih =>
      subst hpos
      have hsource : source.length = n + 4 ∧ t = source ++ rest := tagHere?_split hhere
      rcases List.mem_append.mp h with h | h
      · obtain ⟨old, rfl, hclosed⟩ := hrun
        exact hflush hclosed t h
      · have hrest : .text content s ∈
            scan (source.reverse ++ before) [] (before.length + n + 4) rest := by
          simpa using h
        have hlen : before.length + n + 4 = (source.reverse ++ before).length := by
          simp [hsource.1]
          omega
        have hclosed : Closed (source.reverse ++ before) := by
          obtain ⟨-, inner, hinner, hsplit, -⟩ := tagHere?_eq_some_iff.mp hhere
          have hbraced : source = '{' :: '{' :: inner ++ ['}', '}'] := by
            rw [← take_braced inner rest, ← hsplit, hinner]
          simp [hbraced, Closed]
        have hwhole := ih hlen ⟨_, rfl, hclosed⟩ hrest
        rw [hsource.2]
        simpa using hwhole
  | case2 before run pos hnone =>
      obtain ⟨old, rfl, hclosed⟩ := hrun
      subst hpos
      exact hflush hclosed [] h
  | case3 before run pos c r hnone ih =>
      obtain ⟨old, rfl, hclosed⟩ := hrun
      have hwhole := ih (by simp [hpos]) ⟨old, rfl, hclosed⟩ h
      simpa using hwhole

theorem text_split {t content : Text} {s : Span} (h : .text content s ∈ tokenize t) :
    ∃ a b, t = a ++ (content ++ b) ∧ Closed a.reverse ∧ content ≠ [] ∧
      s = ⟨a.length, a.length + content.length⟩ := by
  have hstart : ∃ old : Text, [] = [] ++ old ∧ Closed old := ⟨[], rfl, by simp [Closed]⟩
  rw [tokenize_eq_scan] at h
  exact @scan_text_split [] [] t 0 rfl hstart content s h

def Separated (a b : Token) : Prop :=
  ¬ (a.isText ∧ b.isText)

theorem scan_separated : (scan before run pos t).IsChain Separated := by
  have hflush (run : Text) (pos : Nat) : (flush run pos).IsChain Separated := by
    unfold flush
    split <;> simp
  fun_induction scan before run pos t with
  | case1 before run pos t here n rest hhere source ih =>
      refine List.isChain_append.mpr ⟨hflush run pos, ?_, ?_⟩
      · exact List.isChain_cons.mpr ⟨by simp [Separated, isText], ih⟩
      · simp [Separated, isText]
  | case2 before run pos hnone => exact hflush run pos
  | case3 before run pos c r hnone ih => exact ih

theorem tokenize_separated (t : Text) : (tokenize t).IsChain Separated := by
  rw [tokenize_eq_scan]
  exact scan_separated

theorem tokenize_tile (t : Text) : Span.Tile 0 ((tokenize t).map span) t.length := by
  have h := @scan_tile [] [] t 0 (Nat.zero_le 0)
  simpa [tokenize_eq_scan] using h

theorem inPlace_of_mem_tokenize {t : Text} {token : Token} (h : token ∈ tokenize t) :
    token.InPlace t := by
  cases token with
  | text content s =>
      obtain ⟨a, b, rfl, -, -, rfl⟩ := text_split h
      exact Span.slice_middle a content b
  | tag found s =>
      obtain ⟨c, hat, hstop⟩ := (tag_mem_tokenize_iff t found s).mp h
      obtain ⟨start, stop⟩ := s
      obtain rfl : stop = c + 2 := hstop
      exact holds_of_tagAt hat

/-- The tokens cover a template without a gap and in one way: each stands where its span says, a tag
from its opening braces to the nearest closing ones, and all text between two tags is one token. -/
theorem tokens_tile_template (t : Text) :
    Span.Tile 0 ((tokenize t).map span) t.length ∧
    (tokenize t).flatMap (fun token => token.span.slice t) = t ∧
    (tokenize t).IsChain Separated ∧
    (∀ content s, .text content s ∈ tokenize t → content = s.slice t) ∧
    ∀ found s, .tag found s ∈ tokenize t → s.Holds t found := by
  refine ⟨tokenize_tile t, ?_, tokenize_separated t, ?_, ?_⟩
  · simpa [List.flatMap_map] using (tokenize_tile t).slices
  · intro content s h
    exact (inPlace_of_mem_tokenize h).symm
  · intro found s h
    exact inPlace_of_mem_tokenize h

end Token

end PromptTemplate
