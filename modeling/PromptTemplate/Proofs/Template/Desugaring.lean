import Mathlib.Logic.Relation
import PromptTemplate.Proofs.Template.Composition

namespace PromptTemplate

namespace Template

def branch (o : Opening) (consequent : Template) : Option Template → Template → Template
  | none, rest => .block o consequent rest
  | some alternate, rest => .blockElse o consequent alternate rest

inductive Desugars : Template → Template → Prop
  | supplied (o : Opening) (a r : Template) : Desugars (.block o a r) (.blockElse o a .nil r)
  | dropped (o : Opening) (a r : Template) : Desugars (.blockElse o a .nil r) (.block o a r)
  | renamed {helper : Helper} (h : helper = .eachBlock ∨ helper = .withBlock) (key : Text)
      (c : Option Comparison) (a : Template) (b : Option Template) (r : Template) :
      Desugars (branch ⟨helper, key, false, c⟩ a b r) (branch ⟨.ifBlock, key, false, c⟩ a b r)
  | inverted (key : Text) (c : Option Comparison) (a : Template) (b : Option Template)
      (r : Template) :
      Desugars (branch ⟨.unlessBlock, key, true, c⟩ a b r)
        (.blockElse ⟨.ifBlock, key, false, c⟩ (b.getD .nil) a r)
  | negation (key : Text) (a : Template) (b : Option Template) (r : Template) :
      Desugars (branch ⟨.ifBlock, key, false, some ⟨"not".toList, none, none⟩⟩ a b r)
        (.blockElse ⟨.ifBlock, key, false, none⟩ (b.getD .nil) a r)
  | conjunction (key other : Text) (a : Template) (b : Option Template) (r : Template) :
      Desugars (branch ⟨.ifBlock, key, false, some ⟨"and".toList, none, some other⟩⟩ a b r)
        (branch ⟨.ifBlock, key, false, none⟩ (branch ⟨.ifBlock, other, false, none⟩ a b .nil) b r)
  | disjunction (key other : Text) (a : Template) (b : Option Template) (r : Template) :
      Desugars (branch ⟨.ifBlock, key, false, some ⟨"or".toList, none, some other⟩⟩ a b r)
        (.blockElse ⟨.ifBlock, key, false, none⟩ a (branch ⟨.ifBlock, other, false, none⟩ a b .nil)
          r)

inductive Rewrites : Template → Template → Prop
  | here {t t' : Template} : Desugars t t' → Rewrites t t'
  | text (content : Text) {r r' : Template} : Rewrites r r' →
      Rewrites (.text content r) (.text content r')
  | variable (key : Text) {r r' : Template} : Rewrites r r' →
      Rewrites (.variable key r) (.variable key r')
  | inBlock (o : Opening) {a a' : Template} (r : Template) : Rewrites a a' →
      Rewrites (.block o a r) (.block o a' r)
  | afterBlock (o : Opening) (a : Template) {r r' : Template} : Rewrites r r' →
      Rewrites (.block o a r) (.block o a r')
  | inConsequent (o : Opening) {a a' : Template} (b r : Template) : Rewrites a a' →
      Rewrites (.blockElse o a b r) (.blockElse o a' b r)
  | inAlternate (o : Opening) (a : Template) {b b' : Template} (r : Template) : Rewrites b b' →
      Rewrites (.blockElse o a b r) (.blockElse o a b' r)
  | afterElse (o : Opening) (a b : Template) {r r' : Template} : Rewrites r r' →
      Rewrites (.blockElse o a b r) (.blockElse o a b r')

end Template

namespace Setting

open Template (branch Desugars Rewrites)

variable {s : Setting} {key other : Text} {c : Option Comparison} {x y : Except NumeralFault Text}

def decided (s : Setting) (o : Opening) (x y : Except NumeralFault Text) :
    Except NumeralFault Text := do
  let outcome ← s.verdict o
  if outcome.shows o then x else y

theorem followedBy_decided (o : Opening) (z : Except NumeralFault Text) :
    (do let outcome ← s.verdict o; followedBy (if outcome.shows o then x else y) z) =
      followedBy (s.decided o x y) z := by
  unfold decided
  cases s.verdict o with
  | error f => rfl
  | ok outcome => rfl

theorem expanded_branch (o : Opening) (a : Template) (b : Option Template) (r : Template) :
    s.expanded (branch o a b r) =
      followedBy (s.decided o (s.expanded a) (s.expanded (b.getD .nil))) (s.expanded r) := by
  cases b with
  | none => exact followedBy_decided o (s.expanded r)
  | some b => exact followedBy_decided o (s.expanded r)

theorem expanded_blockElse (o : Opening) (a b r : Template) :
    s.expanded (.blockElse o a b r) =
      followedBy (s.decided o (s.expanded a) (s.expanded b)) (s.expanded r) :=
  s.expanded_branch o a (some b) r

theorem expanded_branch_alone (o : Opening) (a : Template) (b : Option Template) :
    s.expanded (branch o a b .nil) = s.decided o (s.expanded a) (s.expanded (b.getD .nil)) :=
  (s.expanded_branch o a b .nil).trans (followedBy_nil _)

theorem decided_renamed {helper : Helper} (h : helper = .eachBlock ∨ helper = .withBlock) :
    s.decided ⟨helper, key, false, c⟩ x y = s.decided ⟨.ifBlock, key, false, c⟩ x y := by
  rcases h with rfl | rfl
  · rfl
  · rfl

theorem decided_inverted :
    s.decided ⟨.unlessBlock, key, true, c⟩ x y = s.decided ⟨.ifBlock, key, false, c⟩ y x := by
  have hverdict :
      s.verdict ⟨.unlessBlock, key, true, c⟩ = s.verdict ⟨.ifBlock, key, false, c⟩ := rfl
  unfold decided
  rw [hverdict]
  cases s.verdict ⟨.ifBlock, key, false, c⟩ with
  | error f => rfl
  | ok outcome =>
      obtain ⟨value, error⟩ := outcome
      cases value <;> rfl

theorem decided_of_verdict {v : Bool} (h : s.verdict ⟨.ifBlock, key, false, c⟩ = .ok ⟨v, none⟩) :
    s.decided ⟨.ifBlock, key, false, c⟩ x y = if v then x else y := by
  unfold decided
  rw [h]
  cases v <;> rfl

theorem decided_key :
    s.decided ⟨.ifBlock, key, false, none⟩ x y = if (s.scope.resolve key).truthy then x else y :=
  decided_of_verdict rfl

theorem verdict_negation (h : s.operators = .builtin) :
    s.verdict ⟨.ifBlock, key, false, some ⟨"not".toList, none, none⟩⟩ =
      .ok ⟨!(s.scope.resolve key).truthy, none⟩ := by
  simp only [verdict, h]
  rfl

theorem verdict_conjunction (h : s.operators = .builtin) :
    s.verdict ⟨.ifBlock, key, false, some ⟨"and".toList, none, some other⟩⟩ =
      .ok ⟨(s.scope.resolve key).truthy && (s.scope.resolve other).truthy, none⟩ := by
  simp only [verdict, h]
  rfl

theorem verdict_disjunction (h : s.operators = .builtin) :
    s.verdict ⟨.ifBlock, key, false, some ⟨"or".toList, none, some other⟩⟩ =
      .ok ⟨(s.scope.resolve key).truthy || (s.scope.resolve other).truthy, none⟩ := by
  simp only [verdict, h]
  rfl

theorem expanded_desugars (h : s.operators = .builtin) {t t' : Template} (ht : Desugars t t') :
    s.expanded t' = s.expanded t := by
  cases ht with
  | supplied o a r =>
      rw [expanded_blockElse]
      exact (s.expanded_branch o a none r).symm
  | dropped o a r =>
      rw [expanded_blockElse]
      exact s.expanded_branch o a none r
  | renamed hhelper key c a b r => rw [expanded_branch, expanded_branch, decided_renamed hhelper]
  | inverted key c a b r => rw [expanded_branch, expanded_blockElse, decided_inverted]
  | negation key a b r =>
      rw [expanded_branch, expanded_blockElse, decided_key, decided_of_verdict (verdict_negation h)]
      cases (s.scope.resolve key).truthy <;> rfl
  | conjunction key other a b r =>
      rw [expanded_branch, expanded_branch_alone, expanded_branch, decided_key, decided_key,
        decided_of_verdict (verdict_conjunction h)]
      cases (s.scope.resolve key).truthy <;> rfl
  | disjunction key other a b r =>
      rw [expanded_branch, expanded_blockElse, expanded_branch_alone, decided_key, decided_key,
        decided_of_verdict (verdict_disjunction h)]
      cases (s.scope.resolve key).truthy <;> rfl

theorem expanded_rewrites (h : s.operators = .builtin) {t t' : Template} (ht : Rewrites t t') :
    s.expanded t' = s.expanded t := by
  induction ht with
  | here hhere => exact expanded_desugars h hhere
  | text content _ ih => rw [expanded, expanded, ih]
  | «variable» key _ ih => rw [expanded, expanded, ih]
  | inBlock o r _ ih => simp only [expanded, ih]
  | afterBlock o a _ ih => simp only [expanded, ih]
  | inConsequent o b r _ ih => simp only [expanded, ih]
  | inAlternate o a r _ ih => simp only [expanded, ih]
  | afterElse o a b _ ih => simp only [expanded, ih]

theorem expanded_rewritten (h : s.operators = .builtin) {t t' : Template}
    (ht : Relation.ReflTransGen Rewrites t t') : s.expanded t' = s.expanded t := by
  induction ht with
  | refl => rfl
  | tail _ hstep ih => exact (expanded_rewrites h hstep).trans ih

end Setting

namespace Opening

def IsPlain (o : Opening) : Prop :=
  o.helper = .ifBlock ∧ o.inverted = false ∧ ∀ c ∈ o.comparison, c.op ∈ Tag.literalOps

structure Readable (o : Opening) : Prop where
  inverted : o.inverted = decide (o.helper = .unlessBlock)
  comparison : ∀ c ∈ o.comparison, ∃ operand, c.Ending operand

theorem readable_of_spelled {o : Opening} {t : Text} (h : o.Spelled t) : o.Readable := by
  cases h with
  | simple => exact ⟨rfl, by simp⟩
  | compared _ _ hending =>
      refine ⟨rfl, fun c hc => ?_⟩
      obtain rfl := Option.mem_some_iff.mp hc
      exact ⟨_, hending⟩

theorem readable_of_token {template : Text} {o : Opening} {span : Span}
    (h : .tag (.opening o) span ∈ Token.tokenize template) : o.Readable := by
  obtain ⟨c, hat, -⟩ := (Token.tag_mem_tokenize_iff _ _ _).mp h
  obtain ⟨front, core, back, -, hcore, -⟩ := Tag.read?_eq_some_iff.mp hat.read
  cases hcore with
  | opening hspelled => exact readable_of_spelled hspelled

end Opening

namespace Template

def openings : Template → List Opening
  | .nil => []
  | .text _ rest => openings rest
  | .variable _ rest => openings rest
  | .block o consequent rest => o :: (openings consequent ++ openings rest)
  | .blockElse o consequent alternate rest =>
      o :: (openings consequent ++ openings alternate ++ openings rest)

def IsPlain (t : Template) : Prop :=
  ∀ o ∈ t.openings, o.IsPlain

theorem mem_flatten_of_openings {t : Template} {o : Opening} (h : o ∈ t.openings) :
    .inr (.opening o) ∈ t.flatten := by
  induction t with
  | nil => simp [openings] at h
  | text content rest ih => exact List.mem_cons_of_mem _ (ih h)
  | «variable» key rest ih => exact List.mem_cons_of_mem _ (ih h)
  | block o' consequent rest ihc ih =>
      simp only [openings, flatten, List.mem_cons, List.mem_append] at h ⊢
      rcases h with rfl | h | h
      · simp
      · simp [ihc h]
      · simp [ih h]
  | blockElse o' consequent alternate rest ihc iha ih =>
      simp only [openings, flatten, List.mem_cons, List.mem_append] at h ⊢
      rcases h with rfl | (h | h) | h
      · simp
      · simp [ihc h]
      · simp [iha h]
      · simp [ih h]

theorem exists_body (t : Template) : ∃ b : Body, b.template = t := by
  induction t with
  | nil => exact ⟨.nil, rfl⟩
  | text content rest ih =>
      obtain ⟨b, rfl⟩ := ih
      exact ⟨.text 0 content ⟨0, 0⟩ b, rfl⟩
  | «variable» key rest ih =>
      obtain ⟨b, rfl⟩ := ih
      exact ⟨.variable 0 key ⟨0, 0⟩ b, rfl⟩
  | block o consequent rest ihc ih =>
      obtain ⟨c, rfl⟩ := ihc
      obtain ⟨b, rfl⟩ := ih
      exact ⟨.block 0 o ⟨0, 0⟩ c none false .nil b, rfl⟩
  | blockElse o consequent alternate rest ihc iha ih =>
      obtain ⟨c, rfl⟩ := ihc
      obtain ⟨d, rfl⟩ := iha
      obtain ⟨b, rfl⟩ := ih
      exact ⟨.block 0 o ⟨0, 0⟩ c (some ⟨0, 0⟩) true d b, rfl⟩

theorem isPlain_branch {o : Opening} {a r : Template} {b : Option Template} (ho : o.IsPlain)
    (ha : a.IsPlain) (hb : ∀ t ∈ b, t.IsPlain) (hr : r.IsPlain) : (branch o a b r).IsPlain := by
  cases b with
  | none =>
      intro p hp
      simp only [branch, openings, List.mem_cons, List.mem_append] at hp
      rcases hp with rfl | hp | hp
      · exact ho
      · exact ha p hp
      · exact hr p hp
  | some b =>
      intro p hp
      simp only [branch, openings, List.mem_cons, List.mem_append] at hp
      rcases hp with rfl | (hp | hp) | hp
      · exact ho
      · exact ha p hp
      · exact hb b rfl p hp
      · exact hr p hp

theorem isPlain_nil : IsPlain .nil := by
  simp [IsPlain, openings]

theorem isPlain_some {t : Template} (h : t.IsPlain) : ∀ u ∈ some t, u.IsPlain := by
  intro u hu
  obtain rfl := Option.mem_some_iff.mp hu
  exact h

theorem isPlain_getD {b : Option Template} (hb : ∀ t ∈ b, t.IsPlain) : (b.getD .nil).IsPlain := by
  cases b with
  | none => exact isPlain_nil
  | some b => exact hb b rfl

theorem isPlain_key (key : Text) : (⟨.ifBlock, key, false, none⟩ : Opening).IsPlain :=
  ⟨rfl, rfl, by simp⟩

open Relation (ReflTransGen)

variable {a r : Template} {b : Option Template}

theorem exists_ifBlock (helper : Helper) (key : Text) (c : Option Comparison) (ha : a.IsPlain)
    (hb : ∀ t ∈ b, t.IsPlain) (r : Template) :
    ∃ a' b', ReflTransGen Rewrites (branch ⟨helper, key, helper = .unlessBlock, c⟩ a b r)
      (branch ⟨.ifBlock, key, false, c⟩ a' b' r) ∧ a'.IsPlain ∧ ∀ t ∈ b', t.IsPlain := by
  cases helper with
  | ifBlock => exact ⟨a, b, .refl, ha, hb⟩
  | unlessBlock =>
      exact ⟨b.getD .nil, some a, .single (.here (.inverted key c a b r)), isPlain_getD hb,
        isPlain_some ha⟩
  | eachBlock => exact ⟨a, b, .single (.here (.renamed (.inl rfl) key c a b r)), ha, hb⟩
  | withBlock => exact ⟨a, b, .single (.here (.renamed (.inr rfl) key c a b r)), ha, hb⟩

theorem exists_plain_ifBlock {key : Text} {c : Option Comparison}
    (hc : ∀ d ∈ c, ∃ operand, d.Ending operand) (ha : a.IsPlain) (hb : ∀ t ∈ b, t.IsPlain)
    (hr : r.IsPlain) :
    ∃ t, ReflTransGen Rewrites (branch ⟨.ifBlock, key, false, c⟩ a b r) t ∧ t.IsPlain := by
  have hinner (other : Text) : (branch ⟨.ifBlock, other, false, none⟩ a b .nil).IsPlain :=
    isPlain_branch (isPlain_key other) ha hb isPlain_nil
  cases c with
  | none => exact ⟨_, .refl, isPlain_branch (isPlain_key key) ha hb hr⟩
  | some c =>
      obtain ⟨operand, hending⟩ := hc c rfl
      cases hending with
      | literal hop =>
          refine ⟨_, .refl, isPlain_branch ⟨rfl, rfl, fun d hd => ?_⟩ ha hb hr⟩
          obtain rfl := Option.mem_some_iff.mp hd
          exact hop
      | @key op other _ hop =>
          have hop : op = "and".toList ∨ op = "or".toList := by
            simpa [Tag.keyOps] using hop
          rcases hop with rfl | rfl
          · exact ⟨_, .single (.here (.conjunction key other a b r)),
              isPlain_branch (isPlain_key key) (hinner other) hb hr⟩
          · exact ⟨_, .single (.here (.disjunction key other a b r)),
              isPlain_branch (isPlain_key key) ha (isPlain_some (hinner other)) hr⟩
      | @alone op hop =>
          obtain rfl : op = "not".toList := by simpa [Tag.unaryOps] using hop
          exact ⟨_, .single (.here (.negation key a b r)),
            isPlain_branch (isPlain_key key) (isPlain_getD hb) (isPlain_some ha) hr⟩

theorem exists_plain_branch {o : Opening} (ho : o.Readable) (ha : a.IsPlain)
    (hb : ∀ t ∈ b, t.IsPlain) (hr : r.IsPlain) :
    ∃ t, ReflTransGen Rewrites (branch o a b r) t ∧ t.IsPlain := by
  obtain ⟨helper, key, inverted, c⟩ := o
  obtain rfl : inverted = decide (helper = .unlessBlock) := ho.inverted
  obtain ⟨a', b', hfirst, ha', hb'⟩ := exists_ifBlock helper key c ha hb r
  obtain ⟨t, hsecond, ht⟩ := exists_plain_ifBlock ho.comparison ha' hb' hr
  exact ⟨t, hfirst.trans hsecond, ht⟩

theorem exists_plain {t : Template} (h : ∀ o ∈ t.openings, o.Readable) :
    ∃ t', ReflTransGen Rewrites t t' ∧ t'.IsPlain := by
  induction t with
  | nil => exact ⟨.nil, .refl, isPlain_nil⟩
  | text content rest ih =>
      obtain ⟨r, hrest, hplain⟩ := ih h
      exact ⟨.text content r, hrest.lift _ fun _ _ => .text content, hplain⟩
  | «variable» key rest ih =>
      obtain ⟨r, hrest, hplain⟩ := ih h
      exact ⟨.variable key r, hrest.lift _ fun _ _ => .variable key, hplain⟩
  | block o consequent rest ihc ih =>
      obtain ⟨ho, h⟩ := List.forall_mem_cons.mp h
      obtain ⟨hinner, hafter⟩ := List.forall_mem_append.mp h
      obtain ⟨a, hconsequent, ha⟩ := ihc hinner
      obtain ⟨r, hrest, hr⟩ := ih hafter
      obtain ⟨t, hblock, ht⟩ := exists_plain_branch (b := none) ho ha (by simp) hr
      have hin : ReflTransGen Rewrites (.block o consequent rest) (.block o a rest) :=
        hconsequent.lift (Template.block o · rest) fun _ _ => .inBlock o rest
      have hbehind : ReflTransGen Rewrites (.block o a rest) (.block o a r) :=
        hrest.lift (Template.block o a) fun _ _ => .afterBlock o a
      exact ⟨t, (hin.trans hbehind).trans hblock, ht⟩
  | blockElse o consequent alternate rest ihc iha ih =>
      obtain ⟨ho, h⟩ := List.forall_mem_cons.mp h
      obtain ⟨hinner, hafter⟩ := List.forall_mem_append.mp h
      obtain ⟨hfirst, hsecond⟩ := List.forall_mem_append.mp hinner
      obtain ⟨a, hconsequent, ha⟩ := ihc hfirst
      obtain ⟨b, halternate, hb⟩ := iha hsecond
      obtain ⟨r, hrest, hr⟩ := ih hafter
      obtain ⟨t, hblock, ht⟩ := exists_plain_branch (b := some b) ho ha (isPlain_some hb) hr
      have hin : ReflTransGen Rewrites (.blockElse o consequent alternate rest)
          (.blockElse o a alternate rest) :=
        hconsequent.lift (Template.blockElse o · alternate rest) fun _ _ =>
          .inConsequent o alternate rest
      have helse : ReflTransGen Rewrites (.blockElse o a alternate rest) (.blockElse o a b rest) :=
        halternate.lift (Template.blockElse o a · rest) fun _ _ => .inAlternate o a rest
      have hbehind : ReflTransGen Rewrites (.blockElse o a b rest) (.blockElse o a b r) :=
        hrest.lift (Template.blockElse o a b) fun _ _ => .afterElse o a b
      exact ⟨t, ((hin.trans helse).trans hbehind).trans hblock, ht⟩

end Template

namespace Tree

open Relation (ReflTransGen)

theorem readable_of_parse {limit : Int} {source : Text} {tree : Tree}
    (h : parse limit source = .ok tree) : ∀ o ∈ tree.body.template.openings, o.Readable := by
  intro o ho
  have hmem := Template.mem_flatten_of_openings ho
  rw [← (template_of_parse h).1] at hmem
  obtain ⟨token, htoken, hbare⟩ := List.mem_map.mp hmem
  cases token with
  | text content span => simp [Token.bare] at hbare
  | tag found span =>
      obtain rfl : found = .opening o := by simpa [Token.bare] using hbare
      exact Opening.readable_of_token htoken

end Tree

end PromptTemplate
