import PromptTemplate.Proofs.Evaluation.Fault
import PromptTemplate.Proofs.Evaluation.Hole
import PromptTemplate.Proofs.Tree.Slots

namespace PromptTemplate

theorem Scope.textual_of_definitions {context : Assoc Value} {ds : List Definition}
    {format : SequenceFormat} (hcontext : ∀ e ∈ context, ∃ t, e.2 = .text t)
    (hdefaults : ∀ d ∈ ds, ∀ p, d.default = some p → ∃ t, p = .text t) :
    Scope.Textual ⟨context, .ofDefinitions ds, format⟩ := by
  refine ⟨hcontext, fun e he => ?_⟩
  obtain ⟨d, hd, rfl⟩ := List.mem_map.mp (Assoc.subset_of_firsts _ he)
  exact hdefaults d hd

namespace Setting

variable {s : Setting} {limit : Int} {template : Text} {tree : Tree}

theorem clean_of_emitted (hparse : Tree.parse limit template = .ok tree)
    (hfixed : ∀ content span, .text content span ∈ Token.tokenize template →
      '{' ∉ content ∧ '}' ∉ content ∧ '\\' ∉ content)
    {ps : List Piece} (h : s.emitted tree.body = .ok ps) : ∀ p ∈ ps, p.Clean := by
  have hflatten : tree.body.flatten = (Token.tokenize template).map Token.bare :=
    (Tree.built_of_parse hparse).2.flatten
  intro p hp
  have horigin := origin_of_emitted h p hp
  rw [hflatten] at horigin
  cases p with
  | value t => trivial
  | fixed content =>
      obtain ⟨token, htoken, hbare⟩ := List.mem_map.mp horigin
      cases token with
      | text content' span =>
          cases hbare
          exact hfixed content span htoken
      | tag found span => cases hbare
  | hole key =>
      obtain ⟨token, htoken, hbare⟩ := List.mem_map.mp horigin
      cases token with
      | text content span => cases hbare
      | tag found span =>
          cases hbare
          obtain ⟨c, hat, -⟩ := (Token.tag_mem_tokenize_iff ..).mp htoken
          obtain ⟨front, core, back, -, hcore, -⟩ := Tag.spelled_of_read? hat.read
          cases hcore with
          | «variable» hkey helse => exact ⟨hkey, helse⟩

theorem renderTree_isOk_iff (s : Setting) (tree : Tree) :
    (∃ out, (s.renderTree tree).1 = .ok out) ↔ ∀ o ∈ s.reached tree.body, s.fault? o = none := by
  simp only [renderTree_ok_iff]
  rw [← faultOf_eq_none_iff, faultOf_rendered, List.findSome?_eq_none_iff]

/-- Rendering yields text just in case no condition that it reaches misreads a numeral. As a
template, the text has the placeholders for its tags unless a value escapes one of them or values
make up another tag; and values that do not end in an opening brace or a backslash never do. -/
theorem rendered_tags_iff (limit : Int) (template : Text) (tree : Tree) (context : Assoc Value)
    (ds : List Definition) (format : SequenceFormat) (operators : OperatorTable)
    (hparse : Tree.parse limit template = .ok tree)
    (hfixed : ∀ content span, .text content span ∈ Token.tokenize template →
      '{' ∉ content ∧ '}' ∉ content ∧ '\\' ∉ content)
    (hcontext : ∀ e ∈ context, ∃ t, e.2 = .text t)
    (hdefaults : ∀ d ∈ ds, ∀ p, d.default = some p → ∃ t, p = .text t) :
    let s : Setting := ⟨⟨context, .ofDefinitions ds, format⟩, operators⟩
    ((∃ out, (s.renderTree tree).1 = .ok out) ↔
      ∀ o ∈ s.reached tree.body, s.fault? o = none) ∧
    ∀ out, (s.renderTree tree).1 = .ok out → ∃ ps, s.emitted tree.body = .ok ps ∧
      out = Piece.joined ps ∧
      (Token.tags out = Piece.holes 0 ps ↔ ¬ Piece.Swallowed ps ∧ ¬ Piece.Assembled ps) ∧
      ((∀ t, .value t ∈ ps → t.getLast? ≠ some '{' ∧ t.getLast? ≠ some '\\') →
        Token.tags out = Piece.holes 0 ps) := by
  intro s
  have htextual : s.scope.Textual := Scope.textual_of_definitions hcontext hdefaults
  refine ⟨renderTree_isOk_iff s tree, fun out hout => ?_⟩
  rw [renderTree_ok_iff, rendered_eq_emitted htextual] at hout
  cases hemitted : s.emitted tree.body with
  | error f => simp [hemitted, Except.map] at hout
  | ok ps =>
      simp only [hemitted, Except.map, Except.ok.injEq] at hout
      subst hout
      have hclean := clean_of_emitted hparse hfixed hemitted
      exact ⟨ps, rfl, rfl, Piece.tags_joined_iff hclean, Piece.tags_joined_of_ends hclean⟩

def ofContext (context : Assoc Value) : Setting :=
  ⟨⟨context, .ofDefinitions [], .comma⟩, .builtin⟩

theorem rendered_tags_of_spelled_value :
    ∃ ps, (ofContext [(['a'], .text ['{', '{', 'k', '}', '}'])]).emitted
        (.variable 1 ['a'] ⟨0, 5⟩ (.variable 2 ['b'] ⟨5, 10⟩ .nil)) = .ok ps ∧
      "\\\x7b\x7bk\\\x7d\x7d\x7b\x7bb\x7d\x7d".toList = Piece.joined ps ∧
      Token.tags "\\\x7b\x7bk\\\x7d\x7d\x7b\x7bb\x7d\x7d".toList = Piece.holes 0 ps ∧
      Piece.holes 0 ps = [.tag (.variable ['b']) ⟨7, 12⟩] := by
  have htokens : Token.tokenize "\x7b\x7ba\x7d\x7d\x7b\x7bb\x7d\x7d".toList =
      [.tag (.variable ['a']) ⟨0, 5⟩, .tag (.variable ['b']) ⟨5, 10⟩] := by
    decide +kernel
  obtain ⟨-, h⟩ := rendered_tags_iff 64 "\x7b\x7ba\x7d\x7d\x7b\x7bb\x7d\x7d".toList
    ⟨"\x7b\x7ba\x7d\x7d\x7b\x7bb\x7d\x7d".toList,
      .variable 1 ['a'] ⟨0, 5⟩ (.variable 2 ['b'] ⟨5, 10⟩ .nil)⟩
    [(['a'], .text ['{', '{', 'k', '}', '}'])] [] .comma .builtin (by decide +kernel)
    (by rw [htokens]; simp) (by simp) (by simp)
  obtain ⟨ps, hps, hout, -, hends⟩ := h "\\\x7b\x7bk\\\x7d\x7d\x7b\x7bb\x7d\x7d".toList rfl
  obtain rfl : [.value ['{', '{', 'k', '}', '}'], .hole ['b']] = ps := Except.ok.inj hps
  exact ⟨_, hps, hout, hends (by simp), rfl⟩

theorem values_reach_tags :
    (∃ tree ps, Tree.parse 64 "\x7b\x7ba\x7d\x7d\x7b\x7bb\x7d\x7d".toList = .ok tree ∧
      (ofContext [(['a'], .text ['\\'])]).emitted tree.body = .ok ps ∧
      ((ofContext [(['a'], .text ['\\'])]).renderTree tree).1 = .ok (Piece.joined ps) ∧
      Piece.holes 0 ps = [.tag (.variable ['b']) ⟨1, 6⟩] ∧
      Token.tags (Piece.joined ps) = []) ∧
    ∃ tree ps context, context =
        [(['a'], .text ['{']), (['k'], .text ['{', 'k', '}']), (['b'], .text ['}'])] ∧
      Tree.parse 64 "\x7b\x7ba\x7d\x7d\x7b\x7bk\x7d\x7d\x7b\x7bb\x7d\x7d".toList = .ok tree ∧
      (ofContext context).emitted tree.body = .ok ps ∧
      ((ofContext context).renderTree tree).1 = .ok (Piece.joined ps) ∧
      Piece.holes 0 ps = [] ∧
      Token.tags (Piece.joined ps) = [.tag (.variable ['k']) ⟨0, 5⟩] := by
  refine ⟨⟨⟨"\x7b\x7ba\x7d\x7d\x7b\x7bb\x7d\x7d".toList,
      .variable 1 ['a'] ⟨0, 5⟩ (.variable 2 ['b'] ⟨5, 10⟩ .nil)⟩,
    [.value ['\\'], .hole ['b']], by decide +kernel, rfl, rfl, rfl, by decide +kernel⟩, ?_⟩
  exact ⟨⟨"\x7b\x7ba\x7d\x7d\x7b\x7bk\x7d\x7d\x7b\x7bb\x7d\x7d".toList,
      .variable 1 ['a'] ⟨0, 5⟩
      (.variable 2 ['k'] ⟨5, 10⟩ (.variable 3 ['b'] ⟨10, 15⟩ .nil))⟩,
    [.value ['{'], .value ['{', 'k', '}'], .value ['}']], _, rfl, by decide +kernel, rfl, rfl, rfl,
    by decide +kernel⟩

end Setting

end PromptTemplate
