import PromptTemplate.Proofs.Tag.Reading
import PromptTemplate.Proofs.Token.Scan
import PromptTemplate.Proofs.Tree.Flatten

namespace PromptTemplate

inductive Template where
  | nil
  | text (content : Text) (rest : Template)
  | variable (key : Text) (rest : Template)
  | block (opening : Opening) (consequent rest : Template)
  | blockElse (opening : Opening) (consequent alternate rest : Template)
  deriving DecidableEq, Repr

open Text (IsQuote blank_nil blank_space)

inductive Comparison.Proper : Comparison → Prop
  | literal {op literal : Text} {quote : Char} : op ∈ Tag.literalOps →
      (∀ d, ¬ Text.PairAt '}' literal d) → IsQuote quote → quote ∉ literal →
      Proper ⟨op, some literal, none⟩
  | key {op other : Text} : op ∈ Tag.keyOps → Tag.isKey other → Proper ⟨op, none, some other⟩
  | alone {op : Text} : op ∈ Tag.unaryOps → Proper ⟨op, none, none⟩

structure Opening.Proper (o : Opening) : Prop where
  key : Tag.isKey o.key
  inverted : o.inverted = decide (o.helper = .unlessBlock)
  comparison : ∀ c ∈ o.comparison, o.helper.takesComparison ∧ c.Proper

def Tag.Proper : Tag → Prop
  | .variable key => isKey key ∧ key ≠ "else".toList
  | .opening o => o.Proper
  | .otherwise => True
  | .closing _ => True

structure Text.Inert (t : Text) : Prop where
  nonempty : t ≠ []
  free : ∀ c ∈ t, c ≠ '{' ∧ c ≠ '\\'

namespace Template

def depth : Template → Nat
  | .nil => 0
  | .text _ rest => depth rest
  | .variable _ rest => depth rest
  | .block _ consequent rest => max (depth consequent + 1) (depth rest)
  | .blockElse _ consequent alternate rest =>
      max (max (depth consequent) (depth alternate) + 1) (depth rest)

def flatten : Template → List (Text ⊕ Tag)
  | .nil => []
  | .text content rest => .inl content :: flatten rest
  | .variable key rest => .inr (.variable key) :: flatten rest
  | .block o consequent rest =>
      .inr (.opening o) :: flatten consequent ++ .inr (.closing o.helper) :: flatten rest
  | .blockElse o consequent alternate rest =>
      .inr (.opening o) :: flatten consequent ++ .inr .otherwise :: flatten alternate ++
        .inr (.closing o.helper) :: flatten rest

def Proper : Template → Prop
  | .nil => True
  | .text content rest => content.Inert ∧ (∀ next more, rest ≠ .text next more) ∧ Proper rest
  | .variable key rest => (Tag.variable key).Proper ∧ Proper rest
  | .block o consequent rest => o.Proper ∧ Proper consequent ∧ Proper rest
  | .blockElse o consequent alternate rest =>
      o.Proper ∧ Proper consequent ∧ Proper alternate ∧ Proper rest

end Template

inductive Written : List (Text ⊕ Tag) → Text → Prop
  | nil : Written [] []
  | text {content t : Text} {row : List (Text ⊕ Tag)} : Written row t →
      Written (.inl content :: row) (content ++ t)
  | tag {found : Tag} {content t : Text} {row : List (Text ⊕ Tag)} : found.Spelled content →
      Written row t → Written (.inr found :: row) ('{' :: '{' :: content ++ '}' :: '}' :: t)

def Template.Printed (t : Template) (source : Text) : Prop :=
  Written t.flatten source

theorem Comparison.Proper.ending {c : Comparison} (h : c.Proper) : ∃ operand, c.Ending operand := by
  cases h with
  | literal hop _ hquote hnot => exact ⟨_, .literal hop hquote hnot blank_space (by simp)⟩
  | key hop hother => exact ⟨_, .key hop hother blank_space (by simp)⟩
  | alone hop => exact ⟨[], .alone hop⟩

namespace Tag

theorem Proper.spelled {tag : Tag} (h : tag.Proper) : ∃ content, tag.Spelled content := by
  suffices hcore : ∃ core, tag.Core core by
    obtain ⟨core, hcore⟩ := hcore
    exact ⟨_, [], core, [], blank_nil, hcore, blank_nil, rfl⟩
  cases tag with
  | «variable» key => exact ⟨key, .variable h.1 h.2⟩
  | otherwise => exact ⟨_, .otherwise⟩
  | closing helper => exact ⟨_, .closing⟩
  | opening o =>
      obtain ⟨helper, key, inverted, comparison⟩ := o
      obtain rfl : inverted = decide (helper = .unlessBlock) := h.inverted
      cases comparison with
      | none => exact ⟨_, .opening (.simple blank_space (by simp) h.key)⟩
      | some c =>
          obtain ⟨htakes, hproper⟩ := h.comparison c rfl
          obtain ⟨operand, hop⟩ := hproper.ending
          exact ⟨_, .opening (.compared htakes h.key hop blank_space (by simp) blank_nil
            blank_space (by simp) blank_nil)⟩

theorem Proper.pairless {tag : Tag} {content : Text} (h : tag.Proper)
    (hspelled : tag.Spelled content) : ∀ d, ¬ Text.PairAt '}' content d := by
  refine (Token.confined_of_spelled hspelled).pairless ?_
  have hnone : ∀ d, ¬ Text.PairAt '}' [] d := by simp [Text.PairAt]
  cases tag with
  | «variable» key => exact hnone
  | otherwise => exact hnone
  | closing helper => exact hnone
  | opening o =>
      obtain ⟨helper, key, inverted, comparison⟩ := o
      cases comparison with
      | none => exact hnone
      | some c =>
          cases (h.comparison c rfl).2 with
          | literal _ hpairless _ _ => exact hpairless
          | key _ _ => exact hnone
          | alone _ => exact hnone

end Tag

def ProperRow : List (Text ⊕ Tag) → Prop
  | [] => True
  | .inl content :: row => content.Inert ∧ (∀ next more, row ≠ .inl next :: more) ∧ ProperRow row
  | .inr found :: row => found.Proper ∧ ProperRow row

theorem properRow_append {a b : List (Text ⊕ Tag)} {found : Tag} (ha : ProperRow a)
    (hfound : found.Proper) (hb : ProperRow b) : ProperRow (a ++ .inr found :: b) := by
  induction a with
  | nil => exact ⟨hfound, hb⟩
  | cons piece a ih =>
      cases piece with
      | inl content =>
          obtain ⟨hinert, hapart, ha⟩ := ha
          refine ⟨hinert, ?_, ih ha⟩
          cases a with
          | nil => simp
          | cons piece a => simpa using hapart
      | inr found => exact ⟨ha.1, ih ha.2⟩

theorem Template.Proper.row {t : Template} (h : t.Proper) : ProperRow t.flatten := by
  induction t with
  | nil => trivial
  | text content rest ih =>
      obtain ⟨hinert, hapart, hrest⟩ := h
      refine ⟨hinert, ?_, ih hrest⟩
      cases rest with
      | text next more => exact absurd rfl (hapart next more)
      | nil => simp [flatten]
      | «variable» => simp [flatten]
      | block => simp [flatten]
      | blockElse => simp [flatten]
  | «variable» key rest ih => exact ⟨h.1, ih h.2⟩
  | block o consequent rest ihc ih =>
      obtain ⟨ho, hc, hrest⟩ := h
      exact ⟨ho, properRow_append (ihc hc) trivial (ih hrest)⟩
  | blockElse o consequent alternate rest ihc iha ih =>
      obtain ⟨ho, hc, ha, hrest⟩ := h
      have hbranches : ProperRow (consequent.flatten ++ .inr .otherwise :: alternate.flatten) :=
        properRow_append (ihc hc) trivial (iha ha)
      exact ⟨ho, properRow_append hbranches trivial (ih hrest)⟩

theorem ProperRow.written {row : List (Text ⊕ Tag)} (h : ProperRow row) :
    ∃ source, Written row source := by
  induction row with
  | nil => exact ⟨[], .nil⟩
  | cons piece row ih =>
      cases piece with
      | inl content =>
          obtain ⟨source, hsource⟩ := ih h.2.2
          exact ⟨_, .text hsource⟩
      | inr found =>
          obtain ⟨source, hsource⟩ := ih h.2
          obtain ⟨content, hcontent⟩ := h.1.spelled
          exact ⟨_, .tag hcontent hsource⟩

theorem Template.Proper.printed {t : Template} (h : t.Proper) : ∃ source, t.Printed source :=
  h.row.written

namespace Token

def Clear (before : Text) : Prop :=
  ∀ c ∈ before.head?, c ≠ '{' ∧ c ≠ '\\'

variable {before run : Text} {pos : Nat}

theorem not_escaped_of_clear (h : Clear before) : escaped before = false := by
  unfold escaped
  split
  · exact absurd rfl (h _ rfl).2
  · exact absurd rfl (h _ rfl).1
  · rfl

theorem clear_of_inert {content : Text} (h : content.Inert) (before : Text) :
    Clear (content.reverse ++ before) := by
  obtain rfl | ⟨front, d, rfl⟩ := List.eq_nil_or_concat content
  · exact absurd rfl h.nonempty
  · intro c hc
    obtain rfl : d = c := by simpa using hc
    exact h.free d (by simp)

theorem scan_free {content : Text} (hfree : ∀ c ∈ content, c ≠ '{') (t : Text) :
    scan before run pos (content ++ t) =
      scan (content.reverse ++ before) (content.reverse ++ run) (pos + content.length) t := by
  induction content generalizing before run pos with
  | nil => rfl
  | cons c content ih =>
      obtain ⟨hc, hcontent⟩ := List.forall_mem_cons.mp hfree
      have hnone : tagHere? before (c :: (content ++ t)) = none := by
        unfold tagHere?
        split
        · rename_i heq
          exact absurd (List.cons.inj heq).1 hc
        · rfl
      rw [List.cons_append, scan_cons hnone, ih hcontent]
      simp [Nat.add_assoc, Nat.add_comm 1]

theorem tagHere?_spelled {found : Tag} {content : Text} (hclear : Clear before)
    (hfound : found.Proper) (hspelled : found.Spelled content) (t : Text) :
    tagHere? before ('{' :: '{' :: content ++ '}' :: '}' :: t) = some (found, content.length, t) :=
  have hread := Tag.read?_of_spelled hspelled
  tagHere?_eq_some_iff.mpr ⟨not_escaped_of_clear hclear, content, rfl, rfl,
    (nearest_iff hread).mpr (hfound.pairless hspelled), hread⟩

-- by induction on the row; the text before a tag belongs to the tokens as soon as the tag comes
theorem scan_written {row : List (Text ⊕ Tag)} {source : Text} (h : Written row source)
    (hrow : ProperRow row) (hclear : Clear before)
    (hrun : run ≠ [] → ∀ content more, row ≠ .inl content :: more) :
    (scan before run pos source).map bare = (flush run pos).map bare ++ row := by
  induction h generalizing before run pos with
  | nil => rw [scan_nil, List.append_nil]
  | @text content t row _ ih =>
      obtain ⟨hinert, hapart, hrest⟩ := hrow
      obtain rfl : run = [] := by
        by_contra hne
        exact hrun hne content row rfl
      have hfree : ∀ c ∈ content, c ≠ '{' := fun c hc => (hinert.free c hc).1
      rw [scan_free hfree, ih hrest (clear_of_inert hinert before) fun _ => hapart]
      simp [flush, bare, hinert.nonempty]
  | @tag found content t row hspelled _ ih =>
      have hhere := tagHere?_spelled hclear hrow.1 hspelled t
      rw [scan_tag hhere, take_braced, List.map_append, List.map_cons,
        ih hrow.2 (by simp [Clear]) (by simp)]
      simp [bare, flush]

theorem tokenize_written {row : List (Text ⊕ Tag)} {source : Text} (h : Written row source)
    (hrow : ProperRow row) : (tokenize source).map bare = row := by
  simpa [tokenize_eq_scan, flush] using
    @scan_written [] [] 0 row source h hrow (by simp [Clear]) (by simp)

end Token

end PromptTemplate
