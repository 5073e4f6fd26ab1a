import PromptTemplate.Proofs.Definition.Rules
import PromptTemplate.Proofs.Evaluation.Agreement
import PromptTemplate.Proofs.Evaluation.Emission
import PromptTemplate.Proofs.Template.Composition

namespace PromptTemplate

namespace Definition

theorem forall_isKeyChar {key : Text} (h : isKey key) : ∀ c ∈ key, Tag.isKeyChar c := by
  simp only [isKey, Bool.and_eq_true, List.all_eq_true] at h
  intro c hc
  rw [← isKeyChar_eq]
  exact h.2 c hc

theorem ne_nil_of_isKey {key : Text} (h : isKey key) : key ≠ [] :=
  ((isKey_iff key).mp h).1

end Definition

namespace Tag

theorem isKey_iff_of_declared {key : Text} (h : Definition.isKey key) :
    isKey key ↔ ∀ c ∈ key.head?, c.isAlpha ∨ c = '_' := by
  have hchars := Definition.forall_isKeyChar h
  cases key with
  | nil => exact absurd rfl (Definition.ne_nil_of_isKey h)
  | cons c r =>
      have hrest : r.all isKeyChar :=
        List.all_eq_true.mpr fun d hd => hchars d (List.mem_cons_of_mem _ hd)
      simp [isKey, hrest, isKeyStart_iff]

theorem read?_word {word : Text} (hne : word ≠ []) (h : ∀ c ∈ word, isKeyChar c) :
    read? word = if word = "else".toList then some .otherwise
      else if isKey word then some (.variable word) else none := by
  have htight : word.Tight := Text.tight_of_blankless hne fun c hc => isBlank_of_isKeyChar (h c hc)
  have hstrip : Text.strip word = word := by
    simpa using Text.strip_tight htight Text.blank_nil Text.blank_nil
  unfold read?
  rw [hstrip]
  split
  · exact absurd (h '#' List.mem_cons_self) (by decide)
  · exact absurd (h '/' List.mem_cons_self) (by decide)
  · rfl

end Tag

namespace Token

variable {word : Text}

theorem plain_word (h : ∀ c ∈ word, Tag.isKeyChar c) : Plain word := by
  intro c hc
  simp [isTagChar, h c hc]

theorem length_placeholder (word : Text) : (placeholder word).length = word.length + 4 := by
  simp [placeholder]

theorem tagHere?_placeholder (h : Plain word) :
    tagHere? [] (placeholder word) =
      (Tag.read? word).map fun found => (found, word.length, []) := by
  have hcut : cutClose? none (word ++ ['}', '}']) = some (word, []) := by
    rw [cutClose?_eq_some_iff, quoteAfter?_plain h]
    refine ⟨rfl, rfl, fun d hd hpair => ?_⟩
    have hclose : word[d]? = some '}' := by
      rw [← hpair.1, List.getElem?_append_left hd]
    exact closing_notMem h (List.mem_of_getElem? hclose)
  simp [placeholder, tagHere?, escaped, hcut]

theorem tokenize_of_read? {found : Tag} (h : Plain word) (hread : Tag.read? word = some found) :
    tokenize (placeholder word) = [.tag found ⟨0, (placeholder word).length⟩] := by
  have hhere : tagHere? [] (placeholder word) = some (found, word.length, []) := by
    rw [tagHere?_placeholder h, hread]
    rfl
  rw [tokenize_eq_scan, scan_tag hhere, scan_nil, length_placeholder, Nat.zero_add]
  rfl

-- the second brace begins no tag either, for no brace comes behind it
theorem tokenize_of_unread (h : Plain word) (hread : Tag.read? word = none) :
    tokenize (placeholder word) =
      [.text (placeholder word) ⟨0, (placeholder word).length⟩] := by
  have hfree : ∀ c ∈ word ++ ['}', '}'], c ≠ '{' := by
    rintro c hc rfl
    rcases List.mem_append.mp hc with hc | hc
    · exact absurd (h _ hc) (by decide)
    · exact absurd hc (by decide)
  have hfirst : tagHere? [] ('{' :: '{' :: (word ++ ['}', '}'])) = none := by
    have hhere := tagHere?_placeholder h
    rw [hread] at hhere
    exact hhere
  have hsecond : tagHere? ['{'] ('{' :: (word ++ ['}', '}'])) = none := by
    unfold tagHere?
    split
    · rename_i r heq
      have hbrace : '{' ∈ word ++ ['}', '}'] := (List.cons.inj heq).2 ▸ List.mem_cons_self
      exact absurd rfl (hfree _ hbrace)
    · rfl
  have hscan : scan [] [] 0 ('{' :: '{' :: (word ++ ['}', '}'])) =
      flush ((word ++ ['}', '}']).reverse ++ ['{', '{']) (2 + (word ++ ['}', '}']).length) := by
    rw [scan_cons hfirst, scan_cons hsecond, ← List.append_nil (word ++ ['}', '}']),
      scan_free hfree, scan_nil]
    simp
  rw [tokenize_eq_scan, length_placeholder, placeholder, List.cons_append, List.cons_append, hscan]
  simp [flush]
  omega

end Token

theorem Text.byteSize_le (t : Text) : t.byteSize ≤ 4 * t.length := by
  have hfold (n : Nat) : t.foldl (fun n c => n + Char.utf8Size c) n ≤ n + 4 * t.length := by
    induction t generalizing n with
    | nil => simp
    | cons c t ih =>
        have hchar := Char.utf8Size_le_four c
        have hrest := ih (n + c.utf8Size)
        rw [List.foldl_cons, List.length_cons]
        omega
  simpa [byteSize, total] using hfold 0

namespace Engine

theorem render_of_template {e : Engine} {source : Text} {t : Template}
    (hsize : source.byteSize ≤ e.settings.maxBytes)
    (htokens : (Token.tokenize source).map Token.bare = t.flatten)
    (hdepth : t.depth ≤ e.settings.maxDepth) (context : Assoc Value) (index : Index) :
    (e.render source context index).1 =
      ((e.setting context index).expanded t).mapError .fault := by
  have hlimit : t.depth ≤ (e.settings.maxDepth : Int).toNat := hdepth
  obtain ⟨tree, htree, rfl⟩ := Tree.parse_of_template htokens hlimit
  have hparse : e.parse source = .ok tree := by
    rw [parse, if_neg (Nat.not_lt.mpr hsize), htree]
  rw [render_of_parse context index hparse, Setting.renderTree_eq_expanded]

theorem byteSize_placeholder {key : Text} (h : Definition.isKey key) :
    (placeholder key).byteSize ≤ default.settings.maxBytes := by
  have hlength := ((Definition.isKey_iff key).mp h).2.1
  have hsize := (placeholder key).byteSize_le
  rw [Token.length_placeholder] at hsize
  have hlimit : default.settings.maxBytes = 102400 := rfl
  omega

theorem display_supplied (e : Engine) (key v : Text) (index : Index) :
    ((e.setting [(key, .text v)] index).scope.resolve key).display = Escape.text v := by
  have hget : Assoc.get? key [(key, Value.text v)] = some (.text v) := if_pos rfl
  have hvalue : (e.setting [(key, .text v)] index).scope.value? key =
      some (.text v, .explicit) := by
    simp only [setting, Scope.value?, hget]
    rfl
  exact Scope.display_text hvalue

theorem render_of_variable {key : Text} (h : Definition.isKey key)
    (hread : Tag.read? key = some (.variable key)) (v : Text) (index : Index) :
    (default.render (placeholder key) [(key, .text v)] index).1 = .ok (Escape.text v) := by
  have hflatten : (Token.tokenize (placeholder key)).map Token.bare =
      (Template.variable key .nil).flatten := by
    rw [Token.tokenize_of_read? (Token.plain_word (Definition.forall_isKeyChar h)) hread]
    rfl
  rw [render_of_template (byteSize_placeholder h) hflatten (Nat.zero_le _), Setting.expanded,
    display_supplied, Setting.expanded, followedBy_nil]
  rfl

theorem render_of_unread {key : Text} (h : Definition.isKey key) (hread : Tag.read? key = none)
    (context : Assoc Value) (index : Index) :
    (default.render (placeholder key) context index).1 = .ok (placeholder key) := by
  have hflatten : (Token.tokenize (placeholder key)).map Token.bare =
      (Template.text (placeholder key) .nil).flatten := by
    rw [Token.tokenize_of_unread (Token.plain_word (Definition.forall_isKeyChar h)) hread]
    rfl
  rw [render_of_template (byteSize_placeholder h) hflatten (Nat.zero_le _), Setting.expanded,
    Setting.expanded, followedBy_nil]
  rfl

theorem render_of_keyword (context : Assoc Value) (index : Index) :
    (default.render (placeholder "else".toList) context index).1 =
      .ok (placeholder "else".toList) := by
  have hparse : default.parse (placeholder "else".toList) =
      .error (.malformed (.elseOutside ⟨0, 8⟩)) := by
    decide +kernel
  exact (refuses_of_parse context index hparse).2

/-- The key of a definition between braces names the variable, and its value is put there, if the
key begins with a letter or an underscore and is not the keyword of the alternate branch. Otherwise
no token names it, and the template stays as it is. -/
theorem reference_of_accepted {raw : Value} {d : Definition} (h : Definition.ofValue raw = .ok d)
    (v : Text) :
    let source := placeholder d.key
    let nameable := (∀ c ∈ d.key.head?, c.isAlpha ∨ c = '_') ∧ d.key ≠ "else".toList
    let result := (default.render source [(d.key, .text v)] (Index.ofDefinitions [d])).1
    (nameable → Token.tokenize source = [.tag (.variable d.key) ⟨0, source.length⟩] ∧
      result = .ok (Escape.text v)) ∧
    (¬ nameable → (∀ token ∈ Token.tokenize source, token.keys = []) ∧ result = .ok source) := by
  intro source nameable result
  have hkey := Definition.isKey_of_ofValue h
  have hstart := Tag.isKey_iff_of_declared hkey
  have hchars := Definition.forall_isKeyChar hkey
  have hplain := Token.plain_word hchars
  have hread := Tag.read?_word (Definition.ne_nil_of_isKey hkey) hchars
  constructor
  · rintro ⟨hfirst, helse⟩
    rw [if_neg helse, if_pos (hstart.mpr hfirst)] at hread
    exact ⟨Token.tokenize_of_read? hplain hread, render_of_variable hkey hread v _⟩
  · intro hnot
    by_cases helse : d.key = "else".toList
    · rw [if_pos helse] at hread
      have hsource : source = placeholder "else".toList := congrArg placeholder helse
      refine ⟨?_, ?_⟩
      · rw [Token.tokenize_of_read? hplain hread]
        simp [Token.keys]
      · unfold result
        rw [hsource]
        exact render_of_keyword _ _
    · have hname : ¬ Tag.isKey d.key := fun hname => hnot ⟨hstart.mp hname, helse⟩
      rw [if_neg helse, if_neg hname] at hread
      refine ⟨?_, render_of_unread hkey hread _ _⟩
      rw [Token.tokenize_of_unread hplain hread]
      simp [Token.keys]

theorem reference_of_accepted_hyphen :
    let raw : Value := .dict [("key".toList, .text "first-name".toList),
      ("label".toList, .text ['N']), ("type".toList, .text "array".toList)]
    ∃ d, Definition.ofValue raw = .ok d ∧
      Token.tokenize "\x7b\x7bfirst-name\x7d\x7d".toList =
        [.tag (.variable "first-name".toList) ⟨0, 14⟩] ∧
      (default.render "\x7b\x7bfirst-name\x7d\x7d".toList
        [("first-name".toList, .text "\x7b\x7bx".toList)] (Index.ofDefinitions [d])).1 =
          .ok "\\\x7b\x7bx".toList := by
  intro raw
  have hraw : Definition.ofValue raw =
      .ok { Definition.plain "first-name".toList ['N'] with type := .array } := by
    decide +kernel
  have hletter : ∀ c ∈ "first-name".toList.head?, c.isAlpha ∨ c = '_' := by
    intro c hc
    obtain rfl : 'f' = c := Option.some.inj hc
    exact .inl rfl
  obtain ⟨hnamed, -⟩ := reference_of_accepted hraw "\x7b\x7bx".toList
  obtain ⟨htokens, hresult⟩ := hnamed ⟨hletter, by decide⟩
  exact ⟨_, hraw, htokens, hresult⟩

theorem accepted_without_reference :
    let raw (key : Text) : Value := .dict [("key".toList, .text key), ("label".toList, .text ['A'])]
    let Fails (key : Text) : Prop := ∃ d, Definition.ofValue (raw key) = .ok d ∧ d.key = key ∧
      (∀ s, Token.tokenize (placeholder key) ≠ [.tag (.variable key) s]) ∧
      (default.render (placeholder key) [(key, .text ['x'])] (Index.ofDefinitions [d])).1 ≠
        .ok (Escape.text ['x'])
    Fails "9lives".toList ∧ Fails "else".toList := by
  intro raw Fails
  have hdigit : Token.tokenize (placeholder "9lives".toList) =
      [.text (placeholder "9lives".toList) ⟨0, 10⟩] := by
    decide +kernel
  have hkeyword : Token.tokenize (placeholder "else".toList) = [.tag .otherwise ⟨0, 8⟩] := by
    decide +kernel
  refine ⟨⟨Definition.plain "9lives".toList ['A'], by decide +kernel, rfl, ?_, by decide +kernel⟩,
    ⟨Definition.plain "else".toList ['A'], by decide +kernel, rfl, ?_, by decide +kernel⟩⟩
  · intro s heq
    rw [hdigit] at heq
    cases heq
  · intro s heq
    rw [hkeyword] at heq
    cases heq

end Engine

end PromptTemplate
