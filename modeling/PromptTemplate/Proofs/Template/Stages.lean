import PromptTemplate.Proofs.Escape.Joined
import PromptTemplate.Proofs.Evaluation.Emission
import PromptTemplate.Proofs.Evaluation.Independence
import PromptTemplate.Proofs.Template.Filling

namespace PromptTemplate

namespace Leaf

def Inert : Leaf → Prop
  | .text content => ∀ c ∈ content, c ≠ '{' ∧ c ≠ '\\'
  | .variable key => (Tag.variable key).Proper

def merge (run : Text) : List Leaf → List Leaf
  | [] => ofText run
  | .text content :: rest => merge (run ++ content) rest
  | .variable key :: rest => ofText run ++ .variable key :: merge [] rest

theorem fill_merge (f : Text → Text) (run : Text) (leaves : List Leaf) :
    fill f (merge run leaves) = run ++ fill f leaves := by
  induction leaves generalizing run with
  | nil => exact (fill_ofText f run).trans (List.append_nil run).symm
  | cons leaf leaves ih =>
      cases leaf with
      | text content => simp [merge, ih, fill_cons, filled]
      | «variable» key => simp [merge, fill_append, fill_ofText, fill_cons, filled, ih]

theorem scan_fill_placeholder {leaves : List Leaf} (h : ∀ leaf ∈ leaves, leaf.Inert)
    {before run : Text} {pos : Nat} (hclear : Token.Clear before) :
    (Token.scan before run pos (fill placeholder leaves)).map Token.bare =
      (merge run.reverse leaves).map bare := by
  induction leaves generalizing before run pos with
  | nil =>
      rw [fill, List.flatMap_nil, Token.scan_nil, Token.bare_flush_ofText]
      rfl
  | cons leaf leaves ih =>
      obtain ⟨hleaf, hleaves⟩ := List.forall_mem_cons.mp h
      cases leaf with
      | text content =>
          have hbehind : Token.Clear (content.reverse ++ before) := by
            obtain rfl | ⟨front, c, rfl⟩ := List.eq_nil_or_concat content
            · exact hclear
            · intro d hd
              obtain rfl : c = d := by simpa using hd
              exact hleaf c (by simp)
          rw [fill_cons, filled, Token.scan_free fun c hc => (hleaf c hc).1, ih hleaves hbehind, merge]
          simp
      | «variable» key =>
          have hproper : (Tag.variable key).Proper := hleaf
          have hhere := Token.tagHere?_spelled hclear hproper hproper.spelled_bare
            (fill placeholder leaves)
          rw [fill_placeholder_variable, Token.scan_tag hhere, Token.take_braced, List.map_append,
            List.map_cons, ih hleaves (Token.clear_of_close ('{' :: '{' :: key) before),
            Token.bare_flush_ofText, merge, List.map_append, List.map_cons]
          rfl

theorem tokenize_fill_of_inert {leaves : List Leaf} (h : ∀ leaf ∈ leaves, leaf.Inert) :
    (Token.tokenize (fill placeholder leaves)).map Token.bare = (merge [] leaves).map bare := by
  rw [Token.tokenize_eq_scan]
  exact scan_fill_placeholder h (by simp [Token.Clear])

def supplied (s : Scope) : Leaf → Leaf
  | .text content => .text content
  | .variable key =>
      match s.value? key with
      | some _ => .text (s.written key)
      | none => .variable key

theorem fill_supplied (s : Scope) (leaves : List Leaf) :
    fill placeholder (leaves.map (supplied s)) = fill s.written leaves := by
  have hleaf (leaf : Leaf) : (leaf.supplied s).filled placeholder = leaf.filled s.written := by
    cases leaf with
    | text content => rfl
    | «variable» key =>
        cases hvalue : s.value? key with
        | some v => simp [supplied, hvalue, filled]
        | none => simp [supplied, hvalue, filled, Scope.written_of_none hvalue]
  simp only [fill, List.flatMap_map, hleaf]

end Leaf

namespace Scope

def ofValues (context : Assoc Value) (format : SequenceFormat) : Scope :=
  ⟨context, .ofDefinitions [], format⟩

variable {context first second : Assoc Value} {key : Text}

theorem value?_ofValues {t : Text} (h : context.get? key = some (.text t))
    (format : SequenceFormat) :
    (ofValues context format).value? key = some (.text t, .explicit) := by
  have hget : ((ofValues context format).context.get? key).getD .none = .text t := by
    rw [ofValues, h, Option.getD_some]
  rw [value?_eq, hget]

theorem value?_ofValues_none (h : context.get? key = none) (format : SequenceFormat) :
    (ofValues context format).value? key = none := by
  have hget : ((ofValues context format).context.get? key).getD .none = .none := by
    rw [ofValues, h, Option.getD_none]
  rw [value?_eq, hget]
  rfl

theorem written_merge (hkeys : first.keys.Nodup) {v : Value} (h : first.get? key = some v)
    (format : SequenceFormat) :
    (ofValues (second.merge first) format).written key = (ofValues first format).written key := by
  have hagree : (ofValues (second.merge first) format).AgreeAt (ofValues first format) key :=
    ⟨by simp [ofValues, Assoc.get?_merge hkeys, h], rfl⟩
  exact congrArg Resolved.display (hagree.resolve rfl)

theorem written_merge_none (hkeys : first.keys.Nodup) (h : first.get? key = none)
    (format : SequenceFormat) :
    (ofValues (second.merge first) format).written key = (ofValues second format).written key := by
  have hagree : (ofValues (second.merge first) format).AgreeAt (ofValues second format) key :=
    ⟨by simp [ofValues, Assoc.get?_merge hkeys, h], rfl⟩
  exact congrArg Resolved.display (hagree.resolve rfl)

end Scope

def Assoc.IsInert (context : Assoc Value) : Prop :=
  ∀ e ∈ context, ∃ t, e.2 = .text t ∧ '{' ∉ t ∧ '}' ∉ t ∧ '\\' ∉ t

namespace Leaf

variable {first second : Assoc Value} {format : SequenceFormat}

theorem inert_of_tokenize {t : Text} {leaves : List Leaf}
    (hleaves : (Token.tokenize t).map Token.bare = leaves.map bare)
    (hfixed : ∀ content s, .text content s ∈ Token.tokenize t →
      '{' ∉ content ∧ '}' ∉ content ∧ '\\' ∉ content) : ∀ leaf ∈ leaves, leaf.Inert := by
  intro leaf hleaf
  have hmem : leaf.bare ∈ (Token.tokenize t).map Token.bare := by
    rw [hleaves]
    exact List.mem_map_of_mem hleaf
  obtain ⟨token, htoken, hbare⟩ := List.mem_map.mp hmem
  cases token with
  | text content s =>
      cases leaf with
      | text content' =>
          obtain rfl := Sum.inl.inj hbare
          obtain ⟨hopen, -, hbackslash⟩ := hfixed content s htoken
          exact fun c hc => ⟨fun h => hopen (h ▸ hc), fun h => hbackslash (h ▸ hc)⟩
      | «variable» key => cases hbare
  | tag found s =>
      cases leaf with
      | text content => cases hbare
      | «variable» key =>
          obtain rfl := Sum.inr.inj hbare
          obtain ⟨content, -, -, hread⟩ := Token.inPlace_of_mem_tokenize htoken
          exact (Tag.variable_of_read? hread).1

theorem Inert.supplied (hfirst : first.IsInert) {leaf : Leaf} (h : leaf.Inert) :
    (leaf.supplied (.ofValues first format)).Inert := by
  cases leaf with
  | text content => exact h
  | «variable» key =>
      cases hget : first.get? key with
      | none => simpa [Leaf.supplied, Scope.value?_ofValues_none hget] using h
      | some v =>
          obtain ⟨t, rfl, hopen, hclose, hbackslash⟩ := hfirst _ (Assoc.mem_of_get?_eq_some hget)
          have hbraceless : t.Braceless :=
            fun c hc => ⟨fun h => hopen (h ▸ hc), fun h => hclose (h ▸ hc)⟩
          have hvalue := Scope.value?_ofValues hget format
          have hwritten := Scope.display_text hvalue
          rw [Escape.text_braceless hbraceless] at hwritten
          simp only [Leaf.supplied, hvalue, Scope.written, hwritten]
          exact fun c hc => ⟨fun h => hopen (h ▸ hc), fun h => hbackslash (h ▸ hc)⟩

theorem fill_supplied_merge (hkeys : first.keys.Nodup) (hfirst : first.IsInert)
    (second : Assoc Value) (format : SequenceFormat) (leaves : List Leaf) :
    fill (Scope.ofValues second format).written (leaves.map (supplied (.ofValues first format))) =
      fill (Scope.ofValues (second.merge first) format).written leaves := by
  have hleaf (leaf : Leaf) :
      (leaf.supplied (.ofValues first format)).filled (Scope.ofValues second format).written =
        leaf.filled (Scope.ofValues (second.merge first) format).written := by
    cases leaf with
    | text content => rfl
    | «variable» key =>
        cases hget : first.get? key with
        | none =>
            simp [supplied, Scope.value?_ofValues_none hget, filled,
              Scope.written_merge_none hkeys hget]
        | some v =>
            obtain ⟨t, rfl, -⟩ := hfirst _ (Assoc.mem_of_get?_eq_some hget)
            simp [supplied, Scope.value?_ofValues hget, filled, Scope.written_merge hkeys hget]
  simp only [fill, List.flatMap_map, hleaf]

end Leaf

namespace Tree

/-- A template of variables and texts without braces and backslashes, rendered with some values that
hold none either, gives a template; rendered with further values, that gives what the first one does
with all the values, of which those given first count. -/
theorem filled_in_stages (limit : Int) {t : Text}
    (hplain : ∀ found s, .tag found s ∈ Token.tokenize t → ∃ key, found = .variable key)
    (hfixed : ∀ content s, .text content s ∈ Token.tokenize t →
      '{' ∉ content ∧ '}' ∉ content ∧ '\\' ∉ content)
    {first : Assoc Value} (hkeys : first.keys.Nodup) (hfirst : first.IsInert)
    (second : Assoc Value) (format : SequenceFormat) (operators : OperatorTable) :
    let s (context : Assoc Value) : Setting := ⟨⟨context, .ofDefinitions [], format⟩, operators⟩
    ∃ tree half rest whole, parse limit t = .ok tree ∧
      ((s first).renderTree tree).1 = .ok half ∧ parse limit half = .ok rest ∧
      ((s second).renderTree rest).1 = .ok whole ∧
      ((s (second.merge first)).renderTree tree).1 = .ok whole := by
  intro s
  obtain ⟨leaves, hleaves⟩ := Token.exists_leaves hplain
  have hinert := Leaf.inert_of_tokenize hleaves hfixed
  let half := leaves.map (Leaf.supplied (.ofValues first format))
  have hhalf : ∀ leaf ∈ half, leaf.Inert := by
    intro leaf hleaf
    obtain ⟨leaf, hmem, rfl⟩ := List.mem_map.mp hleaf
    exact (hinert leaf hmem).supplied hfirst
  obtain ⟨tree, hparse, hrender⟩ := render_leaves limit hleaves
  obtain ⟨rest, hparse', hrender'⟩ := render_leaves limit (Leaf.tokenize_fill_of_inert hhalf)
  refine ⟨tree, Leaf.fill placeholder half, rest, _, hparse, ?_, hparse', hrender' _, ?_⟩
  · rw [hrender, Leaf.fill_supplied]
    rfl
  · rw [hrender, Leaf.fill_merge, List.nil_append]
    exact congrArg Except.ok (Leaf.fill_supplied_merge hkeys hfirst second format leaves).symm

theorem filled_in_stages_of_empty :
    let t := "\x7b\x7ba\x7d\x7d-\x7b\x7b b \x7d\x7d\x7b\x7bc\x7d\x7d".toList
    let first : Assoc Value := [(['a'], .text []), (['b'], .text ['x'])]
    let second : Assoc Value := [(['c'], .text "\x7b\x7bk".toList), (['b'], .text ['y'])]
    let s (context : Assoc Value) : Setting := ⟨⟨context, .ofDefinitions [], .comma⟩, .builtin⟩
    first.keys.Nodup ∧ first.IsInert ∧ ∃ tree half rest whole, parse 0 t = .ok tree ∧
      ((s first).renderTree tree).1 = .ok half ∧ parse 0 half = .ok rest ∧
      ((s second).renderTree rest).1 = .ok whole ∧
      ((s (second.merge first)).renderTree tree).1 = .ok whole ∧
      whole = "-x\\\x7b\x7bk".toList := by
  intro t first second s
  have htokens : Token.tokenize t = [.tag (.variable ['a']) ⟨0, 5⟩, .text ['-'] ⟨5, 6⟩,
      .tag (.variable ['b']) ⟨6, 13⟩, .tag (.variable ['c']) ⟨13, 18⟩] := by
    decide +kernel
  have hplain : ∀ found s, .tag found s ∈ Token.tokenize t → ∃ key, found = .variable key := by
    intro found s hmem
    rw [htokens] at hmem
    simp only [List.mem_cons, Token.tag.injEq, reduceCtorEq, false_or, List.not_mem_nil,
      or_false] at hmem
    rcases hmem with ⟨rfl, -⟩ | ⟨rfl, -⟩ | ⟨rfl, -⟩
    · exact ⟨['a'], rfl⟩
    · exact ⟨['b'], rfl⟩
    · exact ⟨['c'], rfl⟩
  have hkeys : first.keys.Nodup := by decide
  have hfirst : first.IsInert := by
    intro e he
    rcases List.mem_pair.mp he with rfl | rfl
    · exact ⟨[], rfl, by decide⟩
    · exact ⟨['x'], rfl, by decide⟩
  obtain ⟨tree, half, rest, whole, hparse, hhalf, hrest, hwhole, honce⟩ :=
    filled_in_stages 0 hplain (by rw [htokens]; simp) hkeys hfirst second .comma .builtin
  refine ⟨hkeys, hfirst, tree, half, rest, whole, hparse, hhalf, hrest, hwhole, honce, ?_⟩
  have htree : parse 0 t = .ok ⟨t, .variable 1 ['a'] ⟨0, 5⟩ (.text 2 ['-'] ⟨5, 6⟩
      (.variable 3 ['b'] ⟨6, 13⟩ (.variable 4 ['c'] ⟨13, 18⟩ .nil)))⟩ := by
    decide +kernel
  obtain rfl := Except.ok.inj (htree.symm.trans hparse)
  exact (Except.ok.inj honce).symm

end Tree

end PromptTemplate
