import PromptTemplate.Proofs.Template.Composition

namespace PromptTemplate

inductive Leaf where
  | text (content : Text)
  | variable (key : Text)
  deriving DecidableEq, Repr

namespace Leaf

def bare : Leaf → Text ⊕ Tag
  | .text content => .inl content
  | .variable key => .inr (.variable key)

def filled (f : Text → Text) : Leaf → Text
  | .text content => content
  | .variable key => f key

def fill (f : Text → Text) (leaves : List Leaf) : Text :=
  leaves.flatMap (filled f)

def ofText (t : Text) : List Leaf :=
  if t.isEmpty then [] else [.text t]

theorem bare_injective : Function.Injective bare := by
  intro a b h
  cases a <;> cases b <;> simp_all [bare]

theorem fill_ofText (f : Text → Text) (t : Text) : fill f (ofText t) = t := by
  cases t <;> simp [ofText, fill, filled]

theorem fill_cons (f : Text → Text) (leaf : Leaf) (leaves : List Leaf) :
    fill f (leaf :: leaves) = leaf.filled f ++ fill f leaves :=
  List.flatMap_cons

theorem fill_append (f : Text → Text) (front back : List Leaf) :
    fill f (front ++ back) = fill f front ++ fill f back :=
  List.flatMap_append

theorem fill_placeholder_variable (key : Text) (leaves : List Leaf) :
    fill placeholder (.variable key :: leaves) =
      '{' :: '{' :: key ++ '}' :: '}' :: fill placeholder leaves := by
  simp [fill_cons, filled, placeholder]

end Leaf

def Template.ofLeaves : List Leaf → Template
  | [] => .nil
  | .text content :: rest => .text content (ofLeaves rest)
  | .variable key :: rest => .variable key (ofLeaves rest)

theorem Template.flatten_ofLeaves (leaves : List Leaf) :
    (ofLeaves leaves).flatten = leaves.map Leaf.bare := by
  induction leaves with
  | nil => rfl
  | cons leaf leaves ih => cases leaf <;> simp [ofLeaves, flatten, Leaf.bare, ih]

theorem Template.depth_ofLeaves (leaves : List Leaf) : (ofLeaves leaves).depth = 0 := by
  induction leaves with
  | nil => rfl
  | cons leaf leaves ih => cases leaf <;> exact ih

def Scope.written (s : Scope) (key : Text) : Text :=
  (s.resolve key).display

theorem Setting.expanded_ofLeaves (s : Setting) (leaves : List Leaf) :
    s.expanded (.ofLeaves leaves) = .ok (Leaf.fill s.scope.written leaves) := by
  induction leaves with
  | nil => rfl
  | cons leaf leaves ih =>
      rw [Leaf.fill_cons]
      cases leaf with
      | text content =>
          rw [Template.ofLeaves, expanded, ih]
          rfl
      | «variable» key =>
          rw [Template.ofLeaves, expanded, ih]
          rfl

theorem Tree.render_leaves (limit : Int) {source : Text} {leaves : List Leaf}
    (h : (Token.tokenize source).map Token.bare = leaves.map Leaf.bare) :
    ∃ tree, parse limit source = .ok tree ∧
      ∀ s : Setting, (s.renderTree tree).1 = .ok (Leaf.fill s.scope.written leaves) := by
  rw [← Template.flatten_ofLeaves] at h
  have hdepth : (Template.ofLeaves leaves).depth ≤ limit.toNat := by
    rw [Template.depth_ofLeaves]
    exact Nat.zero_le _
  obtain ⟨tree, hparse, htemplate⟩ := parse_of_template h hdepth
  refine ⟨tree, hparse, fun s => ?_⟩
  rw [s.renderTree_eq_expanded, htemplate, s.expanded_ofLeaves]

namespace Token

theorem exists_leaves {tokens : List Token}
    (h : ∀ found s, .tag found s ∈ tokens → ∃ key, found = .variable key) :
    ∃ leaves : List Leaf, tokens.map bare = leaves.map Leaf.bare := by
  induction tokens with
  | nil => exact ⟨[], rfl⟩
  | cons token tokens ih =>
      obtain ⟨leaves, hleaves⟩ := ih fun found s hmem => h found s (List.mem_cons_of_mem _ hmem)
      cases token with
      | text content s => exact ⟨.text content :: leaves, by simp [bare, Leaf.bare, hleaves]⟩
      | tag found s =>
          obtain ⟨key, rfl⟩ := h found s List.mem_cons_self
          exact ⟨.variable key :: leaves, by simp [bare, Leaf.bare, hleaves]⟩

def unfilled (t : Text) : Token → Text
  | .tag (.variable key) _ => placeholder key
  | token => token.span.slice t

theorem flatMap_unfilled {t : Text} {tokens : List Token} {leaves : List Leaf}
    (hplace : ∀ token ∈ tokens, token.InPlace t) (h : tokens.map bare = leaves.map Leaf.bare) :
    tokens.flatMap (unfilled t) = Leaf.fill placeholder leaves := by
  induction tokens generalizing leaves with
  | nil =>
      obtain rfl : leaves = [] := by simpa [eq_comm] using h
      rfl
  | cons token tokens ih =>
      obtain ⟨leaf, leaves, rfl, hleaf, hrest⟩ := List.map_eq_cons_iff.mp h.symm
      obtain ⟨hhere, hplace⟩ := List.forall_mem_cons.mp hplace
      have htoken : token.unfilled t = leaf.filled placeholder := by
        cases token with
        | text content s =>
            cases leaf with
            | text content' =>
                obtain rfl := Sum.inl.inj hleaf
                exact hhere
            | «variable» key => cases hleaf
        | tag found s =>
            cases leaf with
            | text content => cases hleaf
            | «variable» key =>
                obtain rfl := Sum.inr.inj hleaf
                rfl
      rw [List.flatMap_cons, htoken, ih hplace hrest.symm, Leaf.fill_cons]

theorem bare_flush_ofText (run : Text) (pos : Nat) :
    (flush run pos).map bare = (Leaf.ofText run.reverse).map Leaf.bare := by
  cases run with
  | nil => rfl
  | cons c run => simp [flush, Leaf.ofText, bare, Leaf.bare]

theorem scan_first (before run : Text) (pos : Nat) (t : Text) :
    (scan before run pos t).map bare = (Leaf.ofText (run.reverse ++ t)).map Leaf.bare ∨
      ∃ x content rest found, t = x ++ '{' :: '{' :: content ++ '}' :: '}' :: rest ∧
        escaped (x.reverse ++ before) = false ∧ Tag.read? content = some found ∧
        (scan before run pos t).map bare = (Leaf.ofText (run.reverse ++ x)).map Leaf.bare ++
          .inr found :: (tokenize rest).map bare := by
  fun_induction scan before run pos t with
  | case1 before run pos t found n rest hhere source ih =>
      obtain ⟨hfree, content, rfl, rfl, -, hread⟩ := tagHere?_iff_pairless.mp hhere
      have hclear : Clear (source.reverse ++ before) := by
        unfold source
        rw [take_braced]
        exact clear_of_close ('{' :: '{' :: content) before
      refine .inr ⟨[], content, rest, found, rfl, hfree, hread, ?_⟩
      rw [List.map_append, List.map_cons, bare_flush_ofText, scan_anew hclear, List.append_nil]
      rfl
  | case2 before run pos hnone => exact .inl (by simp [bare_flush_ofText])
  | case3 before run pos c r hnone ih =>
      rcases ih with htext | ⟨x, content, rest, found, rfl, hfree, hread, hscan⟩
      · exact .inl (by simpa using htext)
      · exact .inr ⟨c :: x, content, rest, found, rfl, by simpa using hfree, hread,
          by simpa using hscan⟩

theorem tokenize_first (t : Text) :
    (tokenize t).map bare = (Leaf.ofText t).map Leaf.bare ∨
      ∃ x content rest found, t = x ++ '{' :: '{' :: content ++ '}' :: '}' :: rest ∧
        escaped x.reverse = false ∧ Tag.read? content = some found ∧
        (tokenize t).map bare = (Leaf.ofText x).map Leaf.bare ++
          .inr found :: (tokenize rest).map bare := by
  rw [tokenize_eq_scan]
  simpa using scan_first [] [] 0 t

end Token

theorem Tag.variable_of_read? {content key : Text} (h : read? content = some (.variable key)) :
    (Tag.variable key).Proper ∧
      ∃ front back, Text.Blank front ∧ Text.Blank back ∧ content = front ++ key ++ back := by
  obtain ⟨front, core, back, hfront, hcore, hback, rfl⟩ := spelled_of_read? h
  cases hcore with
  | «variable» hkey helse => exact ⟨⟨hkey, helse⟩, front, back, hfront, hback, rfl⟩

theorem Tag.Proper.spelled_bare {key : Text} (h : (Tag.variable key).Proper) :
    (Tag.variable key).Spelled key :=
  ⟨[], key, [], Text.blank_nil, .variable h.1 h.2, Text.blank_nil, by simp⟩

namespace Leaf

-- by induction on the length of the template, from one tag to the next
theorem tokenize_fill_placeholder {t : Text} {leaves : List Leaf}
    (h : (Token.tokenize t).map Token.bare = leaves.map bare) :
    (Token.tokenize (fill placeholder leaves)).map Token.bare = leaves.map bare := by
  induction hn : t.length using Nat.strongRecOn generalizing t leaves with
  | ind n ih =>
      subst hn
      rcases Token.tokenize_first t with
        htext | ⟨x, content, rest, found, rfl, hfree, hread, hfirst⟩
      · obtain rfl : leaves = ofText t :=
          List.map_injective_iff.mpr bare_injective (h.symm.trans htext)
        rw [fill_ofText, h]
      · obtain ⟨front, back, rfl, hfront, hback⟩ :=
          List.map_eq_append_iff.mp (h.symm.trans hfirst)
        obtain ⟨leaf, leaves, rfl, hleaf, hrest⟩ := List.map_eq_cons_iff.mp hback
        obtain rfl : front = ofText x := List.map_injective_iff.mpr bare_injective hfront
        cases leaf with
        | text content => cases hleaf
        | «variable» key =>
            obtain rfl := Sum.inr.inj hleaf
            obtain ⟨hproper, a, b, ha, hb, rfl⟩ := Tag.variable_of_read? hread
            have hplain := Token.plain_key hproper.1
            have hx : (Token.tokenize x).map Token.bare = (ofText x).map bare := by
              have hwhole := Token.tokenize_append_tag (Tag.spelled_of_read? hread)
                (Token.plain_append (Token.plain_append (Token.plain_blank ha) hplain)
                  (Token.plain_blank hb)) hfree rest
              exact List.append_cancel_right (hwhole.symm.trans hfirst)
            have hbehind := ih rest.length (by simp; omega) hrest.symm rfl
            have hfilled : fill placeholder (ofText x ++ .variable key :: leaves) =
                x ++ '{' :: '{' :: key ++ '}' :: '}' :: fill placeholder leaves := by
              rw [fill_append, fill_ofText, fill_placeholder_variable]
              simp
            rw [hfilled, Token.tokenize_append_tag hproper.spelled_bare hplain hfree, hx,
              hbehind]
            simp [bare]

end Leaf

theorem Scope.written_of_none {s : Scope} {key : Text} (h : s.value? key = none) :
    s.written key = placeholder key := by
  rw [written, resolve, h]

namespace Tree

/-- Rendering a template of texts and variables without any values changes only the blanks around
the keys. Read again, the result has the same texts and variables, and it is rendered as it is. -/
theorem unfilled_render_stable (limit : Int) {t : Text}
    (hplain : ∀ found s, .tag found s ∈ Token.tokenize t → ∃ key, found = .variable key)
    (format : SequenceFormat) (operators : OperatorTable) :
    let s : Setting := ⟨⟨[], .ofDefinitions [], format⟩, operators⟩
    let out := (Token.tokenize t).flatMap (Token.unfilled t)
    (∀ key s, .tag (.variable key) s ∈ Token.tokenize t → ∃ front back, Text.Blank front ∧
      Text.Blank back ∧ s.slice t = '{' :: '{' :: (front ++ key ++ back) ++ ['}', '}']) ∧
    (Token.tokenize out).map Token.bare = (Token.tokenize t).map Token.bare ∧
    (∃ tree, parse limit t = .ok tree ∧ (s.renderTree tree).1 = .ok out) ∧
    ∃ tree, parse limit out = .ok tree ∧ (s.renderTree tree).1 = .ok out := by
  intro s out
  obtain ⟨leaves, hleaves⟩ := Token.exists_leaves hplain
  have hout : out = Leaf.fill placeholder leaves :=
    Token.flatMap_unfilled (fun _ => Token.inPlace_of_mem_tokenize) hleaves
  have hagain : (Token.tokenize out).map Token.bare = leaves.map Leaf.bare := by
    rw [hout]
    exact Leaf.tokenize_fill_placeholder hleaves
  have hwritten : s.scope.written = placeholder := funext fun key => Scope.written_of_none rfl
  refine ⟨?_, hagain.trans hleaves.symm, ?_, ?_⟩
  · intro key span hmem
    obtain ⟨content, hslice, -, hread⟩ := Token.inPlace_of_mem_tokenize hmem
    obtain ⟨-, front, back, hfront, hback, rfl⟩ := Tag.variable_of_read? hread
    exact ⟨front, back, hfront, hback, hslice⟩
  · obtain ⟨tree, hparse, hrender⟩ := render_leaves limit hleaves
    exact ⟨tree, hparse, by rw [hrender, hwritten, hout]⟩
  · obtain ⟨tree, hparse, hrender⟩ := render_leaves limit hagain
    exact ⟨tree, hparse, by rw [hrender, hwritten, hout]⟩

theorem unfilled_render_stable_of_open_quote :
    let t := "\x7b\x7b#if (eq a \"\x7b\x7b  b \x7d\x7d\")\x7d\x7d\\\x7b\x7bc\x7d\x7d".toList
    let out := "\x7b\x7b#if (eq a \"\x7b\x7bb\x7d\x7d\")\x7d\x7d\\\x7b\x7bc\x7d\x7d".toList
    let s : Setting := ⟨⟨[], .ofDefinitions [], .comma⟩, .builtin⟩
    (∀ found s, .tag found s ∈ Token.tokenize t → ∃ key, found = .variable key) ∧
      (∃ tree, parse 0 t = .ok tree ∧ (s.renderTree tree).1 = .ok out) ∧
      ∃ tree, parse 0 out = .ok tree ∧ (s.renderTree tree).1 = .ok out := by
  intro t out s
  have htokens : Token.tokenize t =
      [.text (t.take 13) ⟨0, 13⟩, .tag (.variable ['b']) ⟨13, 21⟩, .text (t.drop 21) ⟨21, 31⟩] := by
    decide +kernel
  have hplain : ∀ found s, .tag found s ∈ Token.tokenize t → ∃ key, found = .variable key := by
    rw [htokens]
    simp
  obtain ⟨-, -, hfirst, hagain⟩ := unfilled_render_stable 0 hplain .comma .builtin
  have hout : (Token.tokenize t).flatMap (Token.unfilled t) = out := by
    rw [htokens]
    decide
  rw [hout] at hfirst hagain
  exact ⟨hplain, hfirst, hagain⟩

end Tree

end PromptTemplate
