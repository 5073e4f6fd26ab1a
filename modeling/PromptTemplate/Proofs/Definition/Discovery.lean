import PromptTemplate.Proofs.Definition.Sync

namespace PromptTemplate

theorem exists_of_isOk {α ε : Type} {x : Except ε α} (h : x.isOk) : ∃ a, x = .ok a := by
  cases x with
  | ok a => exact ⟨a, rfl⟩
  | error e => cases h

theorem Text.distinct_filter (p : Text → Bool) (ts : List Text) :
    distinct (ts.filter p) = (distinct ts).filter p := by
  induction ts using List.reverseRecOn with
  | nil => rfl
  | append_singleton ts t ih =>
      rw [List.filter_append, distinct_concat]
      by_cases hp : p t
      · have hhere : [t].filter p = [t] := by simp [hp]
        have hmem : t ∈ distinct (ts.filter p) ↔ t ∈ distinct ts := by
          rw [ih, List.mem_filter]
          simp [hp]
        rw [hhere, distinct_concat]
        by_cases hthere : t ∈ distinct ts
        · rw [if_pos (hmem.mpr hthere), if_pos hthere, ih]
        · rw [if_neg (mt hmem.mp hthere), if_neg hthere, ih, List.filter_append, hhere]
      · have hnone : [t].filter p = [] := by simp [hp]
        rw [hnone, List.append_nil, ih]
        by_cases hthere : t ∈ distinct ts
        · rw [if_pos hthere]
        · rw [if_neg hthere, List.filter_append, hnone, List.append_nil]

namespace Token

def namedKeys (template : Text) : List Text :=
  Text.distinct ((tokenize template).flatMap keys)

theorem isVariableKey_of_named {template key : Text}
    (h : key ∈ (tokenize template).flatMap keys) :
    Text.isVariableKey key = decide (key.length ≤ 50) := by
  have hkey := isKey_of_mem_keys h
  rw [Text.isVariableKey_eq hkey, Bool.eq_iff_iff, Definition.isKey_iff, decide_eq_true_eq]
  constructor
  · rintro ⟨-, hlength, -⟩
    exact hlength
  · intro hlength
    have hchars : ∀ c ∈ key, c.isAlphanum ∨ c = '_' ∨ c = '-' := by
      intro c hc
      rw [← Definition.isKeyChar_iff, Definition.isKeyChar_eq]
      exact Tag.isKeyChar_of_mem hkey c hc
    exact ⟨Tag.isKey_ne_nil hkey, hlength, hchars⟩

theorem variableKeys_eq_filter (template : Text) :
    variableKeys template = (namedKeys template).filter fun key => key.length ≤ 50 := by
  rw [variableKeys, namedKeys, ← Text.distinct_filter]
  exact congrArg Text.distinct (List.filter_congr fun key => isVariableKey_of_named)

end Token

namespace Setting

open Annotated

variable {s : Setting}

def asked {α : Type} (m : Except Halt (α × Progress)) : List Text :=
  (endOf (m.map Prod.snd)).resolved.keys

theorem keys_after (keys : List Text) (es : List (Text × ComparisonError)) :
    (Progress.after s keys es).resolved.keys = Text.distinct keys := by
  simp [Progress.after, Assoc.keys, Function.comp_def]

theorem asked_visits (nodes : List Node) :
    (endOf (nodes.foldlM s.visit .empty)).resolved.keys =
      Text.distinct ((s.upToFault nodes).flatMap Node.keys) := by
  have hempty : Progress.empty = .after s [] [] := rfl
  rw [hempty, endOf_visits, keys_after, List.nil_append]

theorem asked_annotate (s : Setting) (visible : Bool) (b : Body) :
    asked (s.annotate visible b .empty) =
      Text.distinct ((s.upToFault b.nodes).flatMap Node.keys) := by
  rw [asked, annotate_visits, asked_visits]

theorem asked_render (s : Setting) (b : Body) :
    asked (s.render b .empty) =
      Text.distinct ((s.upToFault (s.shown b)).flatMap Node.keys) := by
  rw [asked, render_visits b (Progress.empty_faithful s), asked_visits]

theorem upToFault_subset (s : Setting) (nodes : List Node) : s.upToFault nodes ⊆ nodes := by
  induction nodes with
  | nil => exact List.Subset.refl _
  | cons node nodes ih =>
      rw [upToFault]
      split
      · exact List.cons_subset_cons _ (List.nil_subset _)
      · exact List.cons_subset_cons _ ih

theorem distinct_keys_subset {nodes nodes' : List Node} (h : nodes ⊆ nodes') :
    Text.distinct (nodes.flatMap Node.keys) ⊆ Text.distinct (nodes'.flatMap Node.keys) := by
  intro key hkey
  obtain ⟨node, hnode, hkey⟩ := List.mem_flatMap.mp (Text.mem_distinct_iff.mp hkey)
  exact Text.mem_distinct_iff.mpr (List.mem_flatMap.mpr ⟨node, h hnode, hkey⟩)

theorem keys_of_annotated {visible : Bool} {b : Body} {a : Annotated}
    (h : s.annotated visible b = .ok a) :
    a.keys = Text.distinct (b.nodes.flatMap Node.keys) ∧ s.upToFault b.nodes = b.nodes := by
  have hitems := nodes_of_annotated h
  refine ⟨?_, upToFault_of_items hitems⟩
  have hkeys := flatMap_of_item? (fun _ _ => keys_of_item?) hitems
  simp only [List.flatMap_map, keys_asVisible] at hkeys
  rw [Annotated.keys, hkeys]

end Setting

namespace Engine

variable {e : Engine} {template : Text} {t : Tree}

theorem namedKeys_of_parse (h : e.parse template = .ok t) :
    Token.namedKeys template = Text.distinct (t.body.nodes.flatMap Node.keys) := by
  rw [Token.namedKeys, (built_of_parse h).keys]

/-- The keys to be defined for a template are those it names that are not too long. Its annotated
tree has all that it names, in the same order; it is there unless a condition misreads a numeral.
Neither annotating nor rendering asks for any other key, also if it ends before its time. -/
theorem keys_discovered (h : e.parse template = .ok t) (context : Assoc Value) (index : Index) :
    let s := e.setting context index
    let named := Token.namedKeys template
    Token.variableKeys template = named.filter (fun key => key.length ≤ 50) ∧ named.Nodup ∧
    ((∃ p, (e.annotate template context index).1 = .ok p) ↔
      ∀ o ∈ t.body.openings, s.fault? o = none) ∧
    (∀ p, (e.annotate template context index).1 = .ok p →
      p.children.keys = named ∧ Setting.asked (s.annotate true t.body .empty) = named) ∧
    Setting.asked (s.annotate true t.body .empty) ⊆ named ∧
    Setting.asked (s.render t.body .empty) ⊆ named := by
  intro s named
  have hnamed : named = Text.distinct (t.body.nodes.flatMap Node.keys) := namedKeys_of_parse h
  refine ⟨Token.variableKeys_eq_filter template, Text.distinct_nodup _, ?_, ?_, ?_, ?_⟩
  · rw [annotate_of_parse context index h, ← Setting.annotateTree_isOk_iff]
    simp only [mapError_eq_ok_iff]
    rfl
  · intro p hp
    rw [annotate_of_parse context index h, mapError_eq_ok_iff] at hp
    obtain ⟨-, hannotated⟩ := (Setting.annotateTree_ok_iff t p).mp hp
    obtain ⟨hkeys, hall⟩ := Setting.keys_of_annotated hannotated
    rw [Setting.asked_annotate, hall, hnamed]
    exact ⟨hkeys, rfl⟩
  · rw [Setting.asked_annotate, hnamed]
    exact Setting.distinct_keys_subset (s.upToFault_subset _)
  · rw [Setting.asked_render, hnamed]
    exact Setting.distinct_keys_subset
      (List.Subset.trans (s.upToFault_subset _) (s.shown_subset _))

theorem keys_discovered_of_long_key :
    let template := ("\x7b\x7b#if (and a b)\x7d\x7d\x7b\x7ba\x7d\x7d\x7b\x7belse\x7d\x7d".toList ++
      "\x7b\x7b".toList ++ List.replicate 51 'c' ++ "\x7d\x7d\x7b\x7b/if\x7d\x7d".toList)
    (default.parse template).isOk ∧ Token.variableKeys template = [['a'], ['b']] ∧
      ∃ p, (default.annotate template [] []).1 = .ok p ∧
        p.children.keys = [['a'], ['b'], List.replicate 51 'c'] := by
  intro template
  have hnamed : Token.namedKeys template = [['a'], ['b'], List.replicate 51 'c'] := by
    decide +kernel
  have hparse : (default.parse template).isOk := by decide +kernel
  have hannotate : (default.annotate template [] []).1.isOk := by decide +kernel
  obtain ⟨t, ht⟩ := exists_of_isOk hparse
  obtain ⟨p, hp⟩ := exists_of_isOk hannotate
  obtain ⟨hvariables, -, -, hannotated, -⟩ := keys_discovered ht [] []
  rw [hnamed] at hvariables hannotated
  exact ⟨hparse, hvariables, p, hp, (hannotated p hp).1⟩

theorem separator_hides_keys :
    (default.parse "\x7b\x7b#if (gt n \"5\")\x7d\x7dx\x7b\x7b/if\x7d\x7d".toList).isOk ∧
    ¬∃ p, (default.annotate "\x7b\x7b#if (gt n \"5\")\x7d\x7dx\x7b\x7b/if\x7d\x7d".toList
      [("n".toList, .text ['\x1c', '2'])] []).1 = .ok p := by
  refine ⟨by decide +kernel, ?_⟩
  rintro ⟨p, hp⟩
  have h : (default.annotate "\x7b\x7b#if (gt n \"5\")\x7d\x7dx\x7b\x7b/if\x7d\x7d".toList
      [("n".toList, .text ['\x1c', '2'])] []).1.isOk = false := by decide +kernel
  rw [hp] at h
  cases h

end Engine

end PromptTemplate
