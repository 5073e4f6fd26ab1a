import PromptTemplate.Proofs.Escape.Quoted
import PromptTemplate.Proofs.Resolution.Display
import PromptTemplate.Proofs.Template.Joining

namespace PromptTemplate

namespace Text

variable {us vs : List Text} {c : Char} {t u a b w sep : Text} {p : Nat}

def QuotedAt (u t : Text) (p : Nat) : Prop :=
  ∃ a b, t = a ++ (u.quoted ++ b) ∧ a.length ≤ p ∧ p < a.length + u.quoted.length

/-- The quoted forms of some texts stand in a text, and every two opening braces that are not
escaped stand in one of them. -/
structure Carries (us : List Text) (t : Text) : Prop where
  held : ∀ u ∈ us, ∃ a b, t = a ++ (u.quoted ++ b)
  opens : ∀ p, PairAt '{' t p → Token.EscapedAt t p ∨ ∃ u ∈ us, QuotedAt u t p

theorem QuotedAt.within (h : QuotedAt u t p) (a b : Text) :
    QuotedAt u (a ++ (t ++ b)) (a.length + p) := by
  obtain ⟨x, y, rfl, hle, hlt⟩ := h
  refine ⟨a ++ x, y ++ b, by simp, ?_, ?_⟩
  · rw [List.length_append]
    omega
  · rw [List.length_append]
    omega

theorem Guarded.carries (h : t.Guarded) : Carries [] t :=
  ⟨by simp, fun p hpair => .inl (h p hpair)⟩

theorem carries_braceless (h : t.Braceless) : Carries [] t :=
  h.guarded.carries

theorem carries_quoted (u : Text) : Carries [u] u.quoted := by
  constructor
  · intro v hv
    obtain rfl := List.mem_singleton.mp hv
    exact ⟨[], [], by simp⟩
  · intro p hpair
    have hlt := (List.getElem?_eq_some_iff.mp hpair.1).1
    exact .inr ⟨u, List.mem_singleton_self u, [], [], by simp, by simp, by simpa using hlt⟩

theorem clear_quoted (u : Text) : Token.Clear u.quoted := by
  intro c hc
  obtain rfl : u.quoteFor = c := Option.some.inj hc
  exact quoteFor_ne u

theorem pairAt_quoted (h : PairAt '{' (u.quoted ++ b) p) (hlt : p < u.quoted.length) :
    PairAt '{' u.quoted p := by
  have hfirst := h.1
  have hsecond := h.2
  rw [List.getElem?_append_left hlt] at hfirst
  have hinner : p + 1 ≠ u.quoted.length := by
    intro hlast
    have hquote : u.quoted[p]? = some u.quoteFor := by
      rw [Text.quoted, List.length_append, List.length_singleton] at hlast
      rw [Text.quoted, List.getElem?_append_right (by omega)]
      simp [Nat.succ.inj hlast]
    exact (quoteFor_ne u).1 (Option.some.inj (hquote.symm.trans hfirst))
  rw [List.getElem?_append_left (by omega)] at hsecond
  exact ⟨hfirst, hsecond⟩

theorem Carries.guarded (h : Carries us t) (hus : ∀ u ∈ us, u.Guarded) : t.Guarded := by
  intro p hpair
  rcases h.opens p hpair with hesc | ⟨u, hu, a, b, rfl, hle, hlt⟩
  · exact hesc
  · obtain ⟨j, rfl⟩ : ∃ j, p = a.length + j := ⟨_, (Nat.add_sub_cancel' hle).symm⟩
    have hquoted := pairAt_quoted ((pairAt_append a j).mp hpair) (by omega)
    exact ((hus u hu).quoted j hquoted).within a b

theorem Carries.opens_within (h : Carries us t) (hpair : PairAt '{' t p) (a b : Text) :
    Token.EscapedAt (a ++ (t ++ b)) (a.length + p) ∨
      ∃ u ∈ us, QuotedAt u (a ++ (t ++ b)) (a.length + p) := by
  rcases h.opens p hpair with hesc | ⟨u, hu, hat⟩
  · exact .inl (hesc.within a b)
  · exact .inr ⟨u, hu, hat.within a b⟩

theorem Carries.held_within (h : Carries us t) (hu : u ∈ us) (a b : Text) :
    ∃ x y, a ++ (t ++ b) = x ++ (u.quoted ++ y) := by
  obtain ⟨x, y, rfl⟩ := h.held u hu
  exact ⟨a ++ x, y ++ b, by simp⟩

theorem Carries.around (hc : c ≠ '{') (ha : Carries us a) (hb : Carries vs b) :
    Carries (us ++ vs) (a ++ c :: b) := by
  constructor
  · intro u hu
    rcases List.mem_append.mp hu with hu | hu
    · exact ha.held_within hu [] (c :: b)
    · simpa using hb.held_within hu (a ++ [c]) []
  · intro p hpair
    rcases pairAt_around hc hpair with hin | ⟨j, rfl, hj⟩
    · have hopens := ha.opens_within hin [] (c :: b)
      simp only [List.nil_append, List.length_nil, Nat.zero_add] at hopens
      exact hopens.imp_right fun ⟨u, hu, hat⟩ => ⟨u, List.mem_append_left _ hu, hat⟩
    · have hopens := hb.opens_within hj (a ++ [c]) []
      simp only [List.append_nil, List.append_assoc, List.singleton_append, List.length_append,
        List.length_singleton] at hopens
      exact hopens.imp_right fun ⟨u, hu, hat⟩ => ⟨u, List.mem_append_right _ hu, hat⟩

theorem Carries.snoc (h : Carries us t) (hc : c ≠ '{') : Carries us (t ++ [c]) := by
  have hend := h.around hc (carries_braceless braceless_nil)
  rwa [List.append_nil] at hend

theorem Carries.cons (h : Carries us t) (hc : ¬ (c = '{' ∧ t.head? = some '{')) :
    Carries us (c :: t) := by
  constructor
  · intro u hu
    simpa using h.held_within hu [c] []
  · intro p hpair
    cases p with
    | zero =>
        have hfirst : c = '{' := Option.some.inj hpair.1
        exact absurd ⟨hfirst, List.head?_eq_getElem?.trans hpair.2⟩ hc
    | succ p =>
        have hopens := h.opens_within ((pairAt_cons_succ p).mp hpair) [c] []
        simpa [Nat.add_comm] using hopens

theorem Carries.braceless_append (hw : w.Braceless) (h : Carries us t) : Carries us (w ++ t) := by
  induction w with
  | nil => exact h
  | cons c w ih =>
      obtain ⟨hc, hw⟩ := braceless_cons.mp hw
      exact (ih hw).cons fun hopen => hc.1 hopen.1

inductive CarriedIn : List Text → List Text → Prop
  | nil : CarriedIn [] []
  | cons {us vs : List Text} {part : Text} {parts : List Text} (head : Carries us part)
      (tail : CarriedIn vs parts) : CarriedIn (us ++ vs) (part :: parts)

variable {parts : List Text}

theorem CarriedIn.join (hsep : sep.Braceless) (hne : sep ≠ []) (h : CarriedIn us parts) :
    Carries us (Text.join sep parts) := by
  induction h with
  | nil => exact carries_braceless braceless_nil
  | cons head tail ih =>
      cases tail with
      | nil => simpa [Text.join] using head
      | cons next rest =>
          obtain ⟨c, w, rfl⟩ := List.exists_cons_of_ne_nil hne
          obtain ⟨hc, hw⟩ := braceless_cons.mp hsep
          simp only [Text.join, List.intercalate_cons_cons, List.append_assoc,
            List.cons_append] at ih ⊢
          exact head.around hc.1 (ih.braceless_append hw)

end Text

namespace SequenceFormat

open Text (Carries CarriedIn)

variable {us parts : List Text}

theorem carriedIn_numberedFrom (i : Nat) (h : CarriedIn us parts) :
    CarriedIn us (numberedFrom i parts) := by
  induction h generalizing i with
  | nil => exact .nil
  | cons head tail ih =>
      have hhead := head.braceless_append (numeral_braceless i)
      rw [List.append_assoc] at hhead
      exact .cons hhead (ih (i + 1))

theorem carriedIn_marked (f : SequenceFormat) (h : CarriedIn us parts) :
    CarriedIn us (f.marked parts) := by
  cases f with
  | comma => exact h
  | newline => exact h
  | numbered => exact carriedIn_numberedFrom 1 h
  | bullet =>
      induction h with
      | nil => exact .nil
      | cons head tail ih =>
          exact .cons (head.braceless_append (w := ['-', ' ']) (by decide)) ih

theorem carries_joinTexts (f : SequenceFormat) (h : CarriedIn us parts) :
    Carries us (f.joinTexts parts) :=
  (f.carriedIn_marked h).join f.separator_braceless.1 f.separator_braceless.2

end SequenceFormat

namespace Value

open Text (Carries CarriedIn carries_braceless)

mutual
def isData : Value → Bool
  | .none | .bool _ | .int _ | .float _ | .text _ => true
  | .list items => areData items
  | .tuple items => areData items
  | .dict entries => holdData entries
  | _ => false

def areData : List Value → Bool
  | [] => true
  | v :: r => isData v && areData r

def holdData : List (Text × Value) → Bool
  | [] => true
  | (_, v) :: r => isData v && holdData r
end

mutual
def texts : Value → List Text
  | .text t => [t]
  | .list items => textsOf items
  | .tuple items => textsOf items
  | .dict entries => entryTexts entries
  | _ => []

def textsOf : List Value → List Text
  | [] => []
  | v :: r => texts v ++ textsOf r

def entryTexts : List (Text × Value) → List Text
  | [] => []
  | (k, v) :: r => k :: texts v ++ entryTexts r
end

mutual
def exposed : Value → List Text
  | .list items => exposedOf items
  | .tuple items => exposedOf items
  | .dict entries => entryTexts entries
  | _ => []

def exposedOf : List Value → List Text
  | [] => []
  | v :: r => exposed v ++ exposedOf r
end

theorem head?_joined_entries (entries : List (Text × Value)) :
    (Text.join ", ".toList (quotedEntries entries) ++ ['}']).head? ≠ some '{' := by
  cases entries with
  | nil => decide
  | cons entry rest =>
      obtain ⟨k, v⟩ := entry
      cases rest with
      | nil => simp [quotedEntries, Text.join, Text.quoted, (Text.quoteFor_ne k).1]
      | cons next rest =>
          simp [quotedEntries, Text.join, Text.quoted, (Text.quoteFor_ne k).1]

theorem carries_commas {us parts : List Text} (h : CarriedIn us parts) :
    Carries us (Text.join ", ".toList parts) :=
  h.join (by decide) (by decide)

theorem carries_list {us parts : List Text} (h : CarriedIn us parts) :
    Carries us ('[' :: Text.join ", ".toList parts ++ [']']) :=
  ((carries_commas h).snoc (by decide)).cons (by simp)

theorem carries_tuple {us parts : List Text} (h : CarriedIn us parts) (n : Nat) :
    Carries us ('(' :: Text.join ", ".toList parts ++ if n = 1 then [',', ')'] else [')']) := by
  split
  · have hclosed := ((carries_commas h).snoc (c := ',') (by decide)).snoc (c := ')') (by decide)
    rw [List.append_assoc] at hclosed
    exact hclosed.cons (by simp)
  · exact ((carries_commas h).snoc (by decide)).cons (by simp)

theorem carries_dict {us : List Text} {entries : List (Text × Value)}
    (h : CarriedIn us (quotedEntries entries)) : Carries us (Value.dict entries).quoted :=
  ((carries_commas h).snoc (by decide)).cons fun hopen => head?_joined_entries entries hopen.2

mutual
theorem carries_quoted : ∀ v : Value, v.isData → Carries v.texts v.quoted
  | .none, _ => carries_braceless (by decide)
  | .bool b, _ => carries_braceless (by cases b <;> decide)
  | .int n, _ => carries_braceless (Text.braceless_ofInt n)
  | .float x, _ => carries_braceless x.braceless_toText
  | .text t, _ => Text.carries_quoted t
  | .list items, h => carries_list (carriedIn_quotedItems items h)
  | .tuple items, h => carries_tuple (carriedIn_quotedItems items h) items.length
  | .dict entries, h => carries_dict (carriedIn_quotedEntries entries h)

theorem carriedIn_quotedItems :
    ∀ items : List Value, areData items → CarriedIn (textsOf items) (quotedItems items)
  | [], _ => .nil
  | v :: r, h => by
      obtain ⟨hv, hr⟩ := Bool.and_eq_true_iff.mp h
      exact .cons (carries_quoted v hv) (carriedIn_quotedItems r hr)

theorem carriedIn_quotedEntries : ∀ entries : List (Text × Value), holdData entries →
    CarriedIn (entryTexts entries) (quotedEntries entries)
  | [], _ => .nil
  | (k, v) :: r, h => by
      obtain ⟨hv, hr⟩ := Bool.and_eq_true_iff.mp h
      have hvalue := (carries_quoted v hv).cons (c := ' ') (by simp)
      exact .cons ((Text.carries_quoted k).around (by decide) hvalue) (carriedIn_quotedEntries r hr)
end

-- a mapping is not escaped, so that all it holds is as in the unescaped value; sequences go on
mutual
theorem carries_escape_quoted : ∀ v : Value, v.isData → Carries v.exposed v.escape.quoted
  | .none, _ => carries_braceless (by decide)
  | .bool b, _ => carries_braceless (by cases b <;> decide)
  | .int n, _ => carries_braceless (Text.braceless_ofInt n)
  | .float x, _ => carries_braceless x.braceless_toText
  | .text t, _ => (Text.guarded_escape t).quoted.carries
  | .list items, h => carries_list (carriedIn_escapeItems items h)
  | .tuple items, h => carries_list (carriedIn_escapeItems items h)
  | .dict entries, h => carries_quoted (.dict entries) h

theorem carriedIn_escapeItems : ∀ items : List Value, areData items →
    CarriedIn (exposedOf items) (quotedItems (escapeItems items))
  | [], _ => .nil
  | v :: r, h => by
      obtain ⟨hv, hr⟩ := Bool.and_eq_true_iff.mp h
      exact .cons (carries_escape_quoted v hv) (carriedIn_escapeItems r hr)
end

theorem carries_escape_scalarText {v : Value} (h : v.isData) :
    Carries v.exposed v.escape.scalarText := by
  cases v with
  | text t => exact (Text.guarded_escape t).carries
  | bool b => exact carries_braceless (by cases b <;> decide)
  | float x => exact carries_braceless (braceless_scalarText_float x)
  | none => exact carries_escape_quoted .none h
  | int n => exact carries_escape_quoted (.int n) h
  | list items => exact carries_escape_quoted (.list items) h
  | tuple items => exact carries_escape_quoted (.tuple items) h
  | dict entries => exact carries_escape_quoted (.dict entries) h
  | _ => simp [isData] at h

theorem carriedIn_escaped_parts {items : List Value} (h : areData items) :
    CarriedIn (exposedOf items) ((escapeItems items).map scalarText) := by
  induction items with
  | nil => exact .nil
  | cons v r ih =>
      obtain ⟨hv, hr⟩ := Bool.and_eq_true_iff.mp h
      exact .cons (carries_escape_scalarText hv) (ih hr)

theorem carries_escape_toText {v : Value} (h : v.isData) (definition : Option Definition)
    (fallback : SequenceFormat) : Carries v.exposed (v.escape.toText definition fallback) := by
  cases v with
  | list items => exact SequenceFormat.carries_joinTexts _ (carriedIn_escaped_parts h)
  | tuple items => exact SequenceFormat.carries_joinTexts _ (carriedIn_escaped_parts h)
  | text t => exact carries_escape_scalarText (v := .text t) h
  | bool b => exact carries_escape_scalarText (v := .bool b) h
  | float x => exact carries_escape_scalarText (v := .float x) h
  | none => exact carries_escape_scalarText (v := .none) h
  | int n => exact carries_escape_scalarText (v := .int n) h
  | dict entries => exact carries_escape_scalarText (v := .dict entries) h
  | _ => simp [isData] at h

end Value

theorem Preset.isData_toValue (p : Preset) : p.toValue.isData := by
  cases p with
  | texts ts =>
      change Value.areData (ts.map Value.text)
      induction ts with
      | nil => rfl
      | cons t ts ih => exact ih
  | _ => rfl

namespace Token

variable {t : Text} {p c : Nat} {found : Tag}

theorem TagAt.within (h : TagAt t p c found) (hclear : Clear t) (a b : Text) :
    TagAt (a ++ (t ++ b)) (a.length + p) (a.length + c) found := by
  obtain ⟨before, content, rest, rfl, rfl, rfl, hfree, hpairless, hread⟩ := tagAt_iff_split.mp h
  refine tagAt_iff_split.mpr
    ⟨a ++ before, content, rest ++ b, by simp, by simp, by simp; omega, ?_, hpairless, hread⟩
  cases before with
  | nil => exact absurd rfl (hclear '{' rfl).1
  | cons d w =>
      have hd := hclear d rfl
      have halone : Clear [d] := fun e he => by simpa [← Option.some.inj he] using hd
      have hbehind : Clear (d :: a.reverse) := fun e he => by
        simpa [← Option.some.inj he] using hd
      rw [List.reverse_cons, escaped_append halone] at hfree
      rw [List.reverse_append, List.reverse_cons, List.append_assoc, List.singleton_append,
        escaped_append hbehind, hfree]

end Token

namespace Scope

open Text (Carries)

variable {s : Scope} {key : Text}

theorem isData_of_value? (h : ∀ v, s.context.get? key = some v → v.isData) {v : Value}
    {state : DisplayState} (hv : s.value? key = some (v, state)) : v.isData := by
  unfold value? at hv
  split at hv
  · rename_i w hw
    obtain ⟨rfl, rfl⟩ := Prod.mk.inj (Option.some.inj hv)
    exact h w (Option.filter_eq_some_iff.mp hw).1
  · obtain ⟨p, -, hp⟩ := Option.map_eq_some_iff.mp hv
    obtain ⟨rfl, rfl⟩ := Prod.mk.inj hp
    exact p.isData_toValue

theorem exposed_of_isBare {v : Value} {state : DisplayState} (h : isBare v state) :
    v.exposed = [] := by
  have hempty : v.isEmpty := (Bool.and_eq_true_iff.mp h).2
  cases v with
  | list items =>
      obtain rfl : items = [] := List.isEmpty_iff.mp hempty
      rfl
  | tuple items =>
      obtain rfl : items = [] := List.isEmpty_iff.mp hempty
      rfl
  | text t => rfl
  | _ => simp [Value.isEmpty] at hempty

theorem carries_display (hdata : ∀ v, s.context.get? key = some v → v.isData)
    (hresolved : (s.resolve key).isResolved) :
    Carries (s.resolve key).raw.exposed (s.resolve key).display := by
  unfold resolve at hresolved ⊢
  cases hvalue : s.value? key with
  | none => simp [hvalue, Resolved.isResolved] at hresolved
  | some found =>
      obtain ⟨v, state⟩ := found
      by_cases hbare : isBare v state
      · simp only [hbare, if_true, exposed_of_isBare hbare]
        exact Text.carries_braceless Text.braceless_nil
      · simp only [hbare, Bool.false_eq_true, if_false]
        exact Value.carries_escape_toText (isData_of_value? hdata hvalue) _ _

/-- Nothing that is put in for a value is a tag, if the texts in its mappings hold no two opening
braces that are not escaped. Tags begin in such a text alone, and all tags that one of them holds
in quotes come through. -/
theorem display_inert_but_for_mappings (s : Scope) (key : Text)
    (hdata : ∀ v, s.context.get? key = some v → v.isData)
    (hresolved : (s.resolve key).isResolved) :
    let r := s.resolve key
    ((∀ u ∈ r.raw.exposed, u.Guarded) → ∀ token ∈ Token.tokenize r.display, token.isText) ∧
      (∀ token ∈ Token.tokenize r.display, token.isText ∨
        ∃ u ∈ r.raw.exposed, u.QuotedAt r.display token.span.start) ∧
      ∀ u ∈ r.raw.exposed, ∀ found i j, .tag found ⟨i, j⟩ ∈ Token.tokenize u.quoted →
        ∃ n, .tag found ⟨n + i, n + j⟩ ∈ Token.tokenize r.display := by
  intro r
  have hcarries : Carries r.raw.exposed r.display := carries_display hdata hresolved
  refine ⟨?_, ?_, ?_⟩
  · intro hguarded
    exact (hcarries.guarded hguarded).isText
  · intro token htoken
    cases token with
    | text content span => exact .inl rfl
    | tag found span =>
        obtain ⟨c, hat, -⟩ := (Token.tag_mem_tokenize_iff _ _ _).mp htoken
        exact .inr ((hcarries.opens _ hat.opened).resolve_left hat.free)
  · intro u hu found i j htag
    obtain ⟨c, hat, hstop⟩ := (Token.tag_mem_tokenize_iff _ _ _).mp htag
    obtain ⟨a, b, hsplit⟩ := hcarries.held u hu
    refine ⟨a.length, (Token.tag_mem_tokenize_iff _ _ _).mpr ⟨a.length + c, ?_, ?_⟩⟩
    · rw [hsplit]
      exact hat.within (Text.clear_quoted u) a b
    · simp only at hstop ⊢
      omega

def ofValue (v : Value) : Scope :=
  ⟨[("a".toList, v)], [], .comma⟩

theorem display_inert_but_for_mappings_of_items :
    let shallow : Value :=
      .list [.text "\x7b\x7bx\x7d\x7d".toList, .tuple [.text "\x7b\x7by\x7d\x7d".toList]]
    let deep : Value := .list [shallow, .dict [("k".toList, .text "\x7b\x7bz\x7d\x7d".toList)]]
    (∀ token ∈ Token.tokenize ((ofValue shallow).resolve "a".toList).display, token.isText) ∧
      ∃ n, .tag (.variable "z".toList) ⟨n + 1, n + 6⟩ ∈
        Token.tokenize ((ofValue deep).resolve "a".toList).display := by
  intro shallow deep
  have hshallow := display_inert_but_for_mappings (ofValue shallow) "a".toList
    (fun v hv => by obtain rfl : shallow = v := Option.some.inj hv; rfl) rfl
  have hdeep := display_inert_but_for_mappings (ofValue deep) "a".toList
    (fun v hv => by obtain rfl : deep = v := Option.some.inj hv; rfl) rfl
  refine ⟨hshallow.1 fun u hu => ?_, ?_⟩
  · have hnone : u ∈ ([] : List Text) := hu
    exact absurd hnone List.not_mem_nil
  · exact hdeep.2.2 "\x7b\x7bz\x7d\x7d".toList (by decide) (.variable "z".toList) 1 6
      (by decide +kernel)

theorem tag_from_mapping :
    let v : Value := .dict [("a".toList, .text "\x7b\x7bk\x7d\x7d".toList)]
    let r := (ofValue v).resolve "a".toList
    v.isData ∧ r.isResolved ∧ r.display = "\x7b'a': '\x7b\x7bk\x7d\x7d'\x7d".toList ∧
      Token.tags r.display = [.tag (.variable "k".toList) ⟨7, 12⟩] := by
  decide +kernel

end Scope

end PromptTemplate
