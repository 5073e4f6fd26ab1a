import PromptTemplate.Proofs.Definition.Choice
import PromptTemplate.Proofs.Definition.Key
import PromptTemplate.Proofs.Definition.Reference
import PromptTemplate.Proofs.Evaluation.Reports
import PromptTemplate.Proofs.Evaluation.Source
import PromptTemplate.Proofs.Tree.Layout
import PromptTemplate.Variables

namespace PromptTemplate

namespace Text

theorem upperChar_ne_nil (c : Char) : upperChar c ≠ [] := by
  have hwords : ∀ e ∈ upperWords, e.2 ≠ [] := by decide
  unfold upperChar
  split
  · rename_i n ns hfind
    have hns : ns ≠ [] := hwords _ (List.mem_of_find?_eq_some hfind)
    simpa using hns
  · simp

theorem labelOfKey_ne_nil {key : Text} (h : key ≠ []) : labelOfKey key ≠ [] := by
  cases key with
  | nil => exact absurd rfl h
  | cons c r =>
      unfold labelOfKey pieces
      cases hrest : pieces (fun c => c == '-' || c == '_') r with
      | nil => exact absurd hrest (pieces_ne_nil _ r)
      | cons w ws =>
          have hfirst := upperChar_ne_nil c
          by_cases hseparator : c == '-' || c == '_'
          · simp [hseparator, join, List.intercalate, capitalize]
          · cases ws with
            | nil => simp [hseparator, join, List.intercalate, capitalize, hfirst]
            | cons w' ws => simp [hseparator, join, List.intercalate, capitalize, hfirst]

theorem isVariableKey_eq {key : Text} (h : Tag.isKey key) :
    isVariableKey key = Definition.isKey key := by
  rw [Bool.eq_iff_iff, Definition.isVariableKey_iff]
  refine or_iff_left ?_
  rintro ⟨word, rfl, -⟩
  exact absurd (Tag.blankless_key h '\n' (by simp)) (by decide)

end Text

namespace Token

theorem isKey_of_spelled {found : Tag} {content : Text} (h : found.Spelled content) (s : Span) :
    ∀ key ∈ keys (.tag found s), Tag.isKey key := by
  obtain ⟨-, core, -, -, hcore, -, -⟩ := h
  cases hcore with
  | otherwise => simp [keys]
  | closing => simp [keys]
  | «variable» hkey _ => simpa [keys] using hkey
  | opening ho =>
      cases ho with
      | simple _ _ hkey => simpa [keys] using hkey
      | compared _ hkey hop =>
          cases hop with
          | literal => simpa [keys] using hkey
          | key _ hother => simpa [keys] using ⟨hkey, hother⟩
          | alone => simpa [keys] using hkey

theorem isKey_of_mem_keys {t key : Text} (h : key ∈ (tokenize t).flatMap keys) :
    Tag.isKey key := by
  obtain ⟨token, htoken, hkey⟩ := List.mem_flatMap.mp h
  cases token with
  | text content s => simp [keys] at hkey
  | tag found s =>
      obtain ⟨c, hc, -⟩ := (tag_mem_tokenize_iff t found s).mp htoken
      exact isKey_of_spelled (Tag.spelled_of_read? hc.read) s key hkey

theorem mem_variableKeys_iff {t key : Text} :
    key ∈ variableKeys t ↔ key ∈ (tokenize t).flatMap keys ∧ Definition.isKey key := by
  rw [variableKeys, Text.mem_distinct_iff, List.mem_filter]
  constructor
  · rintro ⟨hmem, hkey⟩
    rw [Text.isVariableKey_eq (isKey_of_mem_keys hmem)] at hkey
    exact ⟨hmem, hkey⟩
  · rintro ⟨hmem, hkey⟩
    rw [Text.isVariableKey_eq (isKey_of_mem_keys hmem)]
    exact ⟨hmem, hkey⟩

end Token

theorem Body.Built.keys {n : Nat} {ts : List Token} {b : Body} (h : Built n ts b) :
    b.nodes.flatMap Node.keys = ts.flatMap Token.keys := by
  induction h with
  | nil => rfl
  | text _ ih => exact ih
  | «variable» _ ih => simp [Body.nodes, Node.keys, Token.keys, ih]
  | block _ _ ihc ih => simp [Body.nodes, Node.keys, Token.keys, Opening.keys, ihc, ih]
  | blockElse _ _ _ ihc iha ih =>
      simp [Body.nodes, Node.keys, Token.keys, Opening.keys, ihc, iha, ih]

theorem Engine.built_of_parse {e : Engine} {template : Text} {t : Tree}
    (h : e.parse template = .ok t) : Body.Built 1 (Token.tokenize template) t.body := by
  unfold parse at h
  dsimp only at h
  split at h
  · cases h
  · split at h
    · rename_i tree htree
      cases h
      exact (Tree.built_of_parse htree).2
    · cases h

theorem Scope.resolve_congr {s s' : Scope} {key : Text} (hcontext : s.context = s'.context)
    (hfallback : s.format = s'.format)
    (hdefault : (s.definition? key).bind (·.default) = (s'.definition? key).bind (·.default))
    (hformat : (s.definition? key).bind (·.format) = (s'.definition? key).bind (·.format)) :
    s.resolve key = s'.resolve key := by
  have hvalue : s.value? key = s'.value? key := by
    unfold value?
    rw [hcontext, hdefault]
  have htext : Value.toText (s.definition? key) s.format =
      Value.toText (s'.definition? key) s'.format := by
    funext v
    unfold Value.toText
    rw [hformat, hfallback]
  unfold resolve
  rw [hvalue, htext]

theorem Checked.mapM_eq_ok {α β : Type} {f : α → Checked β} {g : α → β} {xs : List α}
    (h : ∀ x ∈ xs, f x = .ok (g x)) : xs.mapM f = .ok (xs.map g) := by
  induction xs with
  | nil => rfl
  | cons x xs ih =>
      obtain ⟨hx, hxs⟩ := List.forall_mem_cons.mp h
      rw [List.mapM_cons, hx, ih hxs]
      rfl

namespace Definition

def Accepted (d : Definition) : Prop :=
  ∃ raw, ofValue raw = .ok d

theorem Accepted.isKey {d : Definition} (h : d.Accepted) : isKey d.key := by
  obtain ⟨raw, hraw⟩ := h
  exact isKey_of_ofValue hraw

theorem ofValue_unknown {key : Text} (h : isKey key) :
    ofValue (unknown key) = .ok (plain key (Text.labelOfKey key)) := by
  have hlabel := Text.labelOfKey_ne_nil (ne_nil_of_isKey h)
  apply ofEntries_of_readFrom
  constructor
  all_goals first
    | rfl
    | simp [field, Assoc.get?, readBytes, checkKey, checkLabel, h, hlabel, plain]

variable {ds : List Definition}

def chosen (ds : List Definition) (key : Text) : Definition :=
  (ds.find? fun d => d.key = key).getD (plain key (Text.labelOfKey key))

theorem key_chosen (ds : List Definition) (key : Text) : (chosen ds key).key = key := by
  unfold chosen
  cases hfind : ds.find? fun d => d.key = key with
  | none => rfl
  | some d => simpa using List.find?_some hfind

theorem chosen_of_mem (hkeys : (ds.map (·.key)).Nodup) {d : Definition} (h : d ∈ ds) :
    chosen ds d.key = d := by
  unfold chosen
  rw [← first?, (sole_of_nodup hkeys h).first?]
  rfl

theorem chosen_cases (ds : List Definition) (key : Text) :
    chosen ds key ∈ ds ∨ (chosen ds key).key ∉ ds.map (·.key) ∧
      chosen ds key = plain (chosen ds key).key (Text.labelOfKey (chosen ds key).key) := by
  rw [key_chosen]
  unfold chosen
  cases hfind : ds.find? fun d => d.key = key with
  | some d => exact .inl (List.mem_of_find?_eq_some hfind)
  | none =>
      refine .inr ⟨fun hthere => ?_, rfl⟩
      obtain ⟨d, hd, rfl⟩ := List.mem_map.mp hthere
      simpa using List.find?_eq_none.mp hfind d hd

theorem sync_eq_last (ds : List Definition) (t : Text) :
    sync ds t = (Token.variableKeys t).map (chosen ds.reverse) := by
  unfold sync chosen
  simp only [Assoc.get?_ofList_reverse, ← List.map_reverse, get?_keyed]

theorem sync_eq_map (hkeys : (ds.map (·.key)).Nodup) (t : Text) :
    sync ds t = (Token.variableKeys t).map (chosen ds) := by
  rw [sync_eq_last]
  refine List.map_congr_left fun key _ => ?_
  exact congrArg (Option.getD · _) (last?_of_nodup hkeys key)

theorem keys_sync (hkeys : (ds.map (·.key)).Nodup) (t : Text) :
    (sync ds t).map (·.key) = Token.variableKeys t := by
  rw [sync_eq_map hkeys, List.map_map]
  simp [Function.comp_def, key_chosen]

theorem nodup_keys_sync (hkeys : (ds.map (·.key)).Nodup) (t : Text) :
    ((sync ds t).map (·.key)).Nodup := by
  rw [keys_sync hkeys]
  exact Text.distinct_nodup _

theorem mem_sync_of_named (hkeys : (ds.map (·.key)).Nodup) {t : Text} {d : Definition} (h : d ∈ ds)
    (hnamed : d.key ∈ Token.variableKeys t) : d ∈ sync ds t := by
  rw [sync_eq_map hkeys, ← chosen_of_mem hkeys h]
  exact List.mem_map_of_mem hnamed

theorem given_or_new_of_mem_sync (hkeys : (ds.map (·.key)).Nodup) {t : Text} {d : Definition}
    (h : d ∈ sync ds t) :
    d ∈ ds ∨ d.key ∉ ds.map (·.key) ∧ d = plain d.key (Text.labelOfKey d.key) := by
  rw [sync_eq_map hkeys] at h
  obtain ⟨key, -, rfl⟩ := List.mem_map.mp h
  exact chosen_cases ds key

theorem accepted_of_mem_sync (hds : ∀ d ∈ ds, d.Accepted) (hkeys : (ds.map (·.key)).Nodup)
    {t : Text} {d : Definition} (h : d ∈ sync ds t) : d.Accepted := by
  rcases given_or_new_of_mem_sync hkeys h with hgiven | ⟨-, hplain⟩
  · exact hds d hgiven
  · have hnamed : d.key ∈ Token.variableKeys t := by
      rw [← keys_sync hkeys t]
      exact List.mem_map_of_mem h
    rw [hplain]
    exact ⟨_, ofValue_unknown (Token.mem_variableKeys_iff.mp hnamed).2⟩

theorem sync_sync (hkeys : (ds.map (·.key)).Nodup) (t : Text) :
    sync (sync ds t) t = sync ds t := by
  have hsynced := nodup_keys_sync hkeys t
  have hagain : ∀ key ∈ Token.variableKeys t, chosen (sync ds t) key = chosen ds key := by
    intro key hkey
    have hmem : chosen ds key ∈ sync ds t := by
      rw [sync_eq_map hkeys]
      exact List.mem_map_of_mem hkey
    have hsame := chosen_of_mem hsynced hmem
    rwa [key_chosen] at hsame
  rw [sync_eq_map hsynced, List.map_congr_left hagain, ← sync_eq_map hkeys]

theorem get?_sync (hkeys : (ds.map (·.key)).Nodup) (t key : Text) :
    (Index.ofDefinitions (sync ds t)).get? key =
      if key ∈ Token.variableKeys t then some (chosen ds key) else none := by
  have hkeyed : (sync ds t).map (fun d => (d.key, d)) =
      (Token.variableKeys t).map fun key => (key, chosen ds key) := by
    rw [sync_eq_map hkeys, List.map_map]
    simp [Function.comp_def, key_chosen]
  rw [Index.get?_ofDefinitions, ← get?_keyed, hkeyed, Assoc.get?_map]

theorem syncRead_eq_ok (ds : List Definition) (t : Text) : syncRead ds t = .ok (sync ds t) := by
  refine Checked.mapM_eq_ok fun key hkey => ?_
  cases (Assoc.ofList (ds.map fun d => (d.key, d))).get? key with
  | some d => rfl
  | none => exact ofValue_unknown (Token.mem_variableKeys_iff.mp hkey).2

-- a key that the template names but no definition can have is too long, and has none on either side
theorem resolve_sync (hds : ∀ d ∈ ds, d.Accepted) (hkeys : (ds.map (·.key)).Nodup) {t key : Text}
    (h : key ∈ (Token.tokenize t).flatMap Token.keys) (context : Assoc Value)
    (format : SequenceFormat) :
    Scope.resolve ⟨context, Index.ofDefinitions (sync ds t), format⟩ key =
      Scope.resolve ⟨context, Index.ofDefinitions ds, format⟩ key := by
  have hsync := get?_sync hkeys t key
  have hgiven := Index.get?_ofDefinitions ds key
  have hsame : ((Index.ofDefinitions (sync ds t)).get? key).bind (·.default) =
        ((Index.ofDefinitions ds).get? key).bind (·.default) ∧
      ((Index.ofDefinitions (sync ds t)).get? key).bind (·.format) =
        ((Index.ofDefinitions ds).get? key).bind (·.format) := by
    rw [hsync, hgiven]
    by_cases hnamed : key ∈ Token.variableKeys t
    · rw [if_pos hnamed, chosen]
      cases ds.find? fun d => d.key = key with
      | none => exact ⟨rfl, rfl⟩
      | some d => exact ⟨rfl, rfl⟩
    · have hlong : ¬ isKey key := fun hkey => hnamed (Token.mem_variableKeys_iff.mpr ⟨h, hkey⟩)
      have hnone : (ds.find? fun d => d.key = key) = none := by
        rw [List.find?_eq_none]
        intro d hd heq
        rw [decide_eq_true_eq] at heq
        exact hlong (heq ▸ (hds d hd).isKey)
      rw [if_neg hnamed, hnone]
      exact ⟨rfl, rfl⟩
  exact Scope.resolve_congr rfl rfl hsame.1 hsame.2

theorem render_sync (hds : ∀ d ∈ ds, d.Accepted) (hkeys : (ds.map (·.key)).Nodup) (e : Engine)
    (t : Text) (context : Assoc Value) :
    (e.render t context (Index.ofDefinitions (sync ds t))).1 =
      (e.render t context (Index.ofDefinitions ds)).1 := by
  refine Engine.render_congr fun tree htree => ⟨rfl, fun key hkey => ?_⟩
  have hnamed : key ∈ (Token.tokenize t).flatMap Token.keys := by
    rw [← (Engine.built_of_parse htree).keys]
    exact hkey
  exact congrArg Resolved.unsourced (resolve_sync hds hkeys hnamed context e.settings.format)

/-- Definitions with different keys are brought in line with any template, new ones being sound.
There is one for each key the template names, in its order; those given whose key it names are among
them, the others are new, and nothing is left to do then. The template renders as before. -/
theorem sync_reconciles (hds : ∀ d ∈ ds, d.Accepted) (hkeys : (ds.map (·.key)).Nodup) (t : Text) :
    syncRead ds t = .ok (sync ds t) ∧ (∀ d ∈ sync ds t, d.Accepted) ∧
    (sync ds t).map (·.key) = Token.variableKeys t ∧ (Token.variableKeys t).Nodup ∧
    (∀ d ∈ ds, d.key ∈ Token.variableKeys t → d ∈ sync ds t) ∧
    (∀ d ∈ sync ds t, d ∈ ds ∨ d.key ∉ ds.map (·.key) ∧ d = plain d.key (Text.labelOfKey d.key)) ∧
    sync (sync ds t) t = sync ds t ∧
    ∀ (e : Engine) (context : Assoc Value),
      (e.render t context (Index.ofDefinitions (sync ds t))).1 =
        (e.render t context (Index.ofDefinitions ds)).1 := by
  have hnodup : (Token.variableKeys t).Nodup := Text.distinct_nodup _
  exact ⟨syncRead_eq_ok ds t, fun d => accepted_of_mem_sync hds hkeys, keys_sync hkeys t, hnodup,
    fun d => mem_sync_of_named hkeys, fun d => given_or_new_of_mem_sync hkeys, sync_sync hkeys t,
    fun e context => render_sync hds hkeys e t context⟩

theorem sync_reconciles_with_long_key :
    let stale : Definition := { plain "old".toList ['O'] with default := some (.text ['x']) }
    let tone : Definition :=
      { plain "tone".toList ['T'] with
        type := .array, default := some (.texts [['a'], ['b']]), format := some .bullet }
    let long : Text := List.replicate 51 'k'
    let t : Text := "\x7b\x7b_\x7d\x7d\x7b\x7b#if tone\x7d\x7d\x7b\x7btone\x7d\x7d".toList ++
      "\x7b\x7b/if\x7d\x7d".toList ++ PromptTemplate.placeholder long
    let synced := sync [stale, tone] t
    synced.map (·.key) = [['_'], "tone".toList] ∧ tone ∈ synced ∧
    (Engine.default.render t [] (Index.ofDefinitions synced)).1 =
      .ok ("\x7b\x7b_\x7d\x7d- a\n- b".toList ++ PromptTemplate.placeholder long) := by
  intro stale tone long t synced
  have hstale : stale.Accepted := ⟨.dict [("key".toList, .text "old".toList),
    ("label".toList, .text ['O']), ("default".toList, .text ['x'])], by decide +kernel⟩
  have htone : tone.Accepted := ⟨.dict [("key".toList, .text "tone".toList),
    ("label".toList, .text ['T']), ("type".toList, .text "array".toList),
    ("default".toList, .list [.text ['a'], .text ['b']]),
    ("format".toList, .text "bullet".toList)], by decide +kernel⟩
  have hds : ∀ d ∈ [stale, tone], d.Accepted :=
    List.forall_mem_cons.mpr ⟨hstale, List.forall_mem_singleton.mpr htone⟩
  have hnamed : Token.variableKeys t = [['_'], "tone".toList] := by decide +kernel
  obtain ⟨-, -, hkeys, -, hkept, -, -, hrender⟩ := sync_reconciles hds (by decide) t
  refine ⟨hkeys.trans hnamed, hkept tone (by simp) ?_, (hrender Engine.default []).trans ?_⟩
  · rw [hnamed]
    decide
  · decide +kernel

end Definition

end PromptTemplate
