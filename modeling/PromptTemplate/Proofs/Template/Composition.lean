import PromptTemplate.Proofs.Evaluation.Uncached
import PromptTemplate.Proofs.Template.Joining
import PromptTemplate.Proofs.Template.RoundTrip
import PromptTemplate.Proofs.Tree.Layout

namespace PromptTemplate

namespace Template

def append : Template → Template → Template
  | .nil, u => u
  | .text content rest, u => .text content (append rest u)
  | .variable key rest, u => .variable key (append rest u)
  | .block o consequent rest, u => .block o consequent (append rest u)
  | .blockElse o consequent alternate rest, u => .blockElse o consequent alternate (append rest u)

theorem flatten_append (t u : Template) : (t.append u).flatten = t.flatten ++ u.flatten := by
  induction t with
  | nil => rfl
  | text content rest ih => simp [append, flatten, ih]
  | «variable» key rest ih => simp [append, flatten, ih]
  | block o consequent rest _ ih => simp [append, flatten, ih]
  | blockElse o consequent alternate rest _ _ ih => simp [append, flatten, ih]

theorem depth_append (t u : Template) : (t.append u).depth = max t.depth u.depth := by
  induction t with
  | nil => simp [append, depth]
  | text content rest ih => exact ih
  | «variable» key rest ih => exact ih
  | block o consequent rest _ ih => rw [append, depth, depth, ih, Nat.max_assoc]
  | blockElse o consequent alternate rest _ _ ih => rw [append, depth, depth, ih, Nat.max_assoc]

theorem exists_of_sentence {m : Nat} {ts : List Token} (h : Sentence m ts) :
    ∃ t : Template, t.flatten = ts.map Token.bare ∧ t.depth ≤ m := by
  induction h with
  | nil => exact ⟨.nil, rfl, Nat.zero_le _⟩
  | @text m content s ts _ ih =>
      obtain ⟨rest, hrest, hdepth⟩ := ih
      exact ⟨.text content rest, by simp [flatten, hrest, Token.bare], hdepth⟩
  | @«variable» m key s ts _ ih =>
      obtain ⟨rest, hrest, hdepth⟩ := ih
      exact ⟨.variable key rest, by simp [flatten, hrest, Token.bare], hdepth⟩
  | @block m o s e inner ts _ _ ihinner ih =>
      obtain ⟨consequent, hconsequent, hinner⟩ := ihinner
      obtain ⟨rest, hrest, hdepth⟩ := ih
      refine ⟨.block o consequent rest, ?_, ?_⟩
      · simp [flatten, hconsequent, hrest, Token.bare]
      · exact Nat.max_le.mpr ⟨Nat.succ_le_succ hinner, hdepth⟩
  | @blockElse m o s e f inner other ts _ _ _ ihinner ihother ih =>
      obtain ⟨consequent, hconsequent, hinner⟩ := ihinner
      obtain ⟨alternate, halternate, hother⟩ := ihother
      obtain ⟨rest, hrest, hdepth⟩ := ih
      refine ⟨.blockElse o consequent alternate rest, ?_, ?_⟩
      · simp [flatten, hconsequent, halternate, hrest, Token.bare]
      · exact Nat.max_le.mpr ⟨Nat.succ_le_succ (Nat.max_le.mpr ⟨hinner, hother⟩), hdepth⟩

end Template

namespace Draft

-- below zero a limit allows no more than zero does
theorem run_of_toNat {limit : Int} {d d' : Draft} {ts : List Token}
    (h : run limit.toNat d ts = .ok d') : run limit d ts = .ok d' := by
  have hstep (d d' : Draft) (t : Token) (h : step limit.toNat d t = .ok d') :
      step limit d t = .ok d' := by
    unfold step at h ⊢
    split <;> try exact h
    split_ifs at h ⊢ with hnat hlimit
    · omega
    · exact h
  induction ts generalizing d with
  | nil => exact h
  | cons t ts ih =>
      simp only [run] at h ⊢
      split at h
      · rename_i d₁ h₁
        rw [hstep d d₁ t h₁]
        exact ih h
      · simp at h

theorem parse_of_toNat {limit : Int} {ts : List Token} {b : Body}
    (h : parse limit.toNat ts = .ok b) : parse limit ts = .ok b := by
  unfold parse at h ⊢
  split at h
  · rename_i d hrun
    rw [run_of_toNat hrun]
    exact h
  · simp at h

end Draft

namespace Tree

variable {limit : Int} {source : Text} {tree : Tree}

theorem template_of_parse (h : parse limit source = .ok tree) :
    (Token.tokenize source).map Token.bare = tree.body.template.flatten ∧
      tree.body.template.depth ≤ limit.toNat := by
  obtain ⟨b, hb, rfl⟩ := parse_eq_ok_iff.mp h
  have hbuilt := Draft.built_of_parse hb
  have hsentence : Sentence limit.toNat (Token.tokenize source) :=
    Draft.sentence_of_parse (Draft.parse_mono (Int.self_le_toNat limit) hb)
  obtain ⟨t, ht, hdepth⟩ := Template.exists_of_sentence hsentence
  have hsame : b.template = t := by
    apply Template.flatten_injective
    rw [Body.flatten_template, hbuilt.flatten, ht]
  rw [Body.flatten_template, hbuilt.flatten, hsame]
  exact ⟨rfl, hdepth⟩

theorem parse_of_template {t : Template} (h : (Token.tokenize source).map Token.bare = t.flatten)
    (hdepth : t.depth ≤ limit.toNat) :
    ∃ tree, parse limit source = .ok tree ∧ tree.body.template = t := by
  obtain ⟨b, hb, hsame⟩ := Body.ofTokens_flatten h (Int.ofNat_le.mpr hdepth) source
  rw [Body.ofTokens_eq_parse] at hb
  exact ⟨⟨source, b⟩, parse_eq_ok_iff.mpr ⟨b, Draft.parse_of_toNat hb, rfl⟩, hsame⟩

end Tree

def followedBy (x y : Except NumeralFault Text) : Except NumeralFault Text := do
  let a ← x
  let b ← y
  return a ++ b

theorem followedBy_assoc (x y z : Except NumeralFault Text) :
    followedBy (followedBy x y) z = followedBy x (followedBy y z) := by
  cases x with
  | error f => rfl
  | ok a =>
      cases y with
      | error f => rfl
      | ok b =>
          cases z with
          | error f => rfl
          | ok c => exact congrArg Except.ok (List.append_assoc a b c)

theorem nil_followedBy (y : Except NumeralFault Text) : followedBy (.ok []) y = y := by
  cases y <;> rfl

theorem followedBy_nil (x : Except NumeralFault Text) : followedBy x (.ok []) = x := by
  cases x with
  | error f => rfl
  | ok a => exact congrArg Except.ok (List.append_nil a)

namespace Setting

variable {s : Setting}

def expanded (s : Setting) : Template → Except NumeralFault Text
  | .nil => .ok []
  | .text content rest => followedBy (.ok content) (expanded s rest)
  | .variable key rest => followedBy (.ok (s.scope.resolve key).display) (expanded s rest)
  | .block o consequent rest => do
      let outcome ← s.verdict o
      followedBy (if outcome.shows o then expanded s consequent else .ok []) (expanded s rest)
  | .blockElse o consequent alternate rest => do
      let outcome ← s.verdict o
      followedBy (if outcome.shows o then expanded s consequent else expanded s alternate)
        (expanded s rest)

theorem expanded_template (b : Body) : s.expanded b.template = s.rendered b := by
  induction b with
  | nil => rfl
  | text id content span rest ih =>
      rw [Body.template, expanded, ih]
      rfl
  | «variable» id key span rest ih =>
      rw [Body.template, expanded, ih]
      rfl
  | block id o span consequent elseSpan hasAlternate alternate rest ihc iha ih =>
      cases hasAlternate with
      | false =>
          rw [Body.template, expanded, rendered, ihc, ih]
          cases s.verdict o with
          | error f => rfl
          | ok outcome =>
              by_cases hfirst : outcome.shows o <;> simp [hfirst, followedBy, bind, Except.bind]
      | true =>
          rw [Body.template, expanded, rendered, ihc, iha, ih]
          cases s.verdict o with
          | error f => rfl
          | ok outcome =>
              by_cases hfirst : outcome.shows o <;> simp [hfirst, followedBy, bind, Except.bind]

theorem renderTree_eq_expanded (s : Setting) (tree : Tree) :
    (s.renderTree tree).1 = s.expanded tree.body.template := by
  rw [expanded_template, renderTree_eq_rendered]

theorem expanded_append (t u : Template) :
    s.expanded (t.append u) = followedBy (s.expanded t) (s.expanded u) := by
  have hblock {x : Except NumeralFault Outcome} {k : Outcome → Except NumeralFault Text}
      (y z : Except NumeralFault Text) :
      (do let outcome ← x; followedBy (k outcome) (followedBy y z)) =
        followedBy (do let outcome ← x; followedBy (k outcome) y) z := by
    cases x with
    | error f => rfl
    | ok outcome => exact (followedBy_assoc (k outcome) y z).symm
  induction t with
  | nil => exact (nil_followedBy _).symm
  | text content rest ih => rw [Template.append, expanded, expanded, ih, followedBy_assoc]
  | «variable» key rest ih => rw [Template.append, expanded, expanded, ih, followedBy_assoc]
  | block o consequent rest _ ih =>
      rw [Template.append, expanded, expanded, ih]
      exact hblock _ _
  | blockElse o consequent alternate rest _ _ ih =>
      rw [Template.append, expanded, expanded, ih]
      exact hblock _ _

theorem expanded_choice (key : Text) (t u : Template) :
    s.expanded (.blockElse ⟨.ifBlock, key, false, none⟩ t u .nil) =
      if (s.scope.resolve key).truthy then s.expanded t else s.expanded u := by
  have hverdict : s.verdict ⟨.ifBlock, key, false, none⟩ =
      .ok ⟨(s.scope.resolve key).truthy, none⟩ := rfl
  have hshows :
      (⟨(s.scope.resolve key).truthy, none⟩ : Outcome).shows ⟨.ifBlock, key, false, none⟩ =
        (s.scope.resolve key).truthy := by
    cases (s.scope.resolve key).truthy <;> rfl
  rw [expanded, hverdict]
  simp only [bind, Except.bind, hshows]
  exact followedBy_nil _

end Setting

namespace Tree

variable {limit : Int} {t u : Text} {a b : Tree}

theorem parse_append (ha : parse limit t = .ok a) (hb : parse limit u = .ok b)
    (hlast : t = [] ∨ ∃ found s, (Token.tokenize t).getLast? = some (.tag found s)) :
    ∃ tree, parse limit (t ++ u) = .ok tree ∧
      tree.body.template = a.body.template.append b.body.template := by
  obtain ⟨htokens, hdepth⟩ := template_of_parse ha
  obtain ⟨hutokens, hudepth⟩ := template_of_parse hb
  refine parse_of_template ?_ ?_
  · rw [Token.tokenize_append hlast, htokens, hutokens, Template.flatten_append]
  · rw [Template.depth_append]
    exact Nat.max_le.mpr ⟨hdepth, hudepth⟩

def braced (content : Text) : Text :=
  '{' :: '{' :: content ++ ['}', '}']

def choice (key t u : Text) : Text :=
  braced ("#if ".toList ++ key) ++ t ++ braced "else".toList ++ u ++ braced "/if".toList

theorem tokenize_choice {key : Text} (hkey : Tag.isKey key) (ht : '\\' ∉ t) (hu : '\\' ∉ u) :
    (Token.tokenize (choice key t u)).map Token.bare =
      .inr (.opening ⟨.ifBlock, key, false, none⟩) :: (Token.tokenize t).map Token.bare ++
        .inr .otherwise :: (Token.tokenize u).map Token.bare ++ [.inr (.closing .ifBlock)] := by
  have hopening : (Tag.opening ⟨.ifBlock, key, false, none⟩).Spelled ("#if ".toList ++ key) := by
    refine ⟨[], _, [], Text.blank_nil, .opening (.simple Text.blank_space (by simp) hkey),
      Text.blank_nil, ?_⟩
    rw [List.nil_append, List.append_nil]
    rfl
  have hotherwise : Tag.otherwise.Spelled "else".toList :=
    ⟨[], _, [], Text.blank_nil, .otherwise, Text.blank_nil, rfl⟩
  have hclosing : (Tag.closing .ifBlock).Spelled "/if".toList :=
    ⟨[], _, [], Text.blank_nil, .closing, Text.blank_nil, rfl⟩
  have hword : Token.Plain "#if ".toList := Token.plain_of_all (by decide)
  have helse : Token.Plain "else".toList := Token.plain_of_all (by decide)
  have hclose : Token.Plain "/if".toList := Token.plain_of_all (by decide)
  have hsplit (front content after : Text) : front ++ braced content ++ after =
      front ++ '{' :: '{' :: content ++ '}' :: '}' :: after := by
    simp [braced]
  have hparts : choice key t u = [] ++ braced ("#if ".toList ++ key) ++
      (t ++ braced "else".toList ++ (u ++ braced "/if".toList ++ [])) := by
    simp only [choice, List.nil_append, List.append_nil, List.append_assoc]
  have hfree {front : Text} (h : '\\' ∉ front) : Token.escaped front.reverse = false :=
    Token.not_escaped_of_notMem (by simpa using h)
  rw [hparts, hsplit, hsplit, hsplit,
    Token.tokenize_append_tag hopening (Token.plain_append hword (Token.plain_key hkey)) rfl,
    Token.tokenize_append_tag hotherwise helse (hfree ht),
    Token.tokenize_append_tag hclosing hclose (hfree hu)]
  simp [Token.tokenize_nil]

theorem parse_choice (ha : parse limit t = .ok a) (hb : parse limit u = .ok b)
    (hadepth : a.body.template.depth < limit) (hbdepth : b.body.template.depth < limit)
    (ht : '\\' ∉ t) (hu : '\\' ∉ u) {key : Text} (hkey : Tag.isKey key) :
    ∃ tree, parse limit (choice key t u) = .ok tree ∧
      tree.body.template =
        .blockElse ⟨.ifBlock, key, false, none⟩ a.body.template b.body.template .nil := by
  obtain ⟨htokens, -⟩ := template_of_parse ha
  obtain ⟨hutokens, -⟩ := template_of_parse hb
  refine parse_of_template ?_ ?_
  · rw [tokenize_choice hkey ht hu, htokens, hutokens]
    rfl
  · simp only [Template.depth, Nat.max_le]
    omega

end Tree

end PromptTemplate
