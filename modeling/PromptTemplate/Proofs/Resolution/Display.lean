import PromptTemplate.Proofs.Escape.Joined
import PromptTemplate.Resolution

namespace PromptTemplate

namespace SequenceFormat

open Text (Braceless)

theorem separator_braceless (f : SequenceFormat) : f.separator.Braceless ∧ f.separator ≠ [] := by
  cases f <;> decide

theorem numeral_braceless (i : Nat) : Braceless (Text.ofNat i ++ ['.', ' ']) :=
  Text.braceless_append.mpr ⟨Text.braceless_ofNat i, by decide⟩

theorem numberedFrom_map_escape (i : Nat) (ts : List Text) :
    numberedFrom i (ts.map Escape.text) = (numberedFrom i ts).map Escape.text := by
  induction ts generalizing i with
  | nil => rfl
  | cons t ts ih =>
      have hhead := Escape.text_braceless_append (numeral_braceless i) t
      simp only [List.append_assoc, List.cons_append, List.nil_append] at hhead
      rw [List.map_cons, numberedFrom, numberedFrom, List.map_cons, ih, hhead]

theorem marked_map_escape (f : SequenceFormat) (ts : List Text) :
    f.marked (ts.map Escape.text) = (f.marked ts).map Escape.text := by
  cases f with
  | comma => rfl
  | newline => rfl
  | numbered => exact numberedFrom_map_escape 1 ts
  | bullet =>
      have hbullet (t : Text) : Escape.text ('-' :: ' ' :: t) = '-' :: ' ' :: Escape.text t :=
        Escape.text_braceless_append (w := ['-', ' ']) (by decide) t
      simp only [marked, List.map_map]
      exact List.map_congr_left fun t _ => (hbullet t).symm

theorem joinTexts_map_escape (f : SequenceFormat) (ts : List Text) :
    f.joinTexts (ts.map Escape.text) = Escape.text (f.joinTexts ts) := by
  obtain ⟨hsep, hne⟩ := f.separator_braceless
  rw [joinTexts, joinTexts, marked_map_escape, Escape.text_join hsep hne]

end SequenceFormat

namespace Value

def isFlat : Value → Bool
  | .list items => items.all isSupportedScalar
  | .tuple items => items.all isSupportedScalar
  | v => v.isSupportedScalar

theorem escapeItems_eq_map (items : List Value) : escapeItems items = items.map escape := by
  induction items with
  | nil => rfl
  | cons v items ih => rw [escapeItems, ih, List.map_cons]

theorem braceless_scalarText_float (x : Binary64) : (scalarText (.float x)).Braceless := by
  cases hn : x.integer? with
  | some n => simpa only [scalarText, hn] using Text.braceless_ofInt n
  | none => simpa only [scalarText, hn] using Binary64.braceless_toText x

theorem scalarText_escape {v : Value} (h : v.isSupportedScalar) :
    v.escape.scalarText = Escape.text v.scalarText := by
  cases v with
  | text t => rfl
  | bool b => cases b <;> rfl
  | int n => exact (Escape.text_braceless (Text.braceless_ofInt n)).symm
  | float x => exact (Escape.text_braceless (braceless_scalarText_float x)).symm
  | _ => simp [isSupportedScalar] at h

theorem serialize_escapeItems (format : SequenceFormat) {items : List Value}
    (h : items.all isSupportedScalar) :
    format.serialize (escapeItems items) = Escape.text (format.serialize items) := by
  have hitems : (items.map escape).map scalarText = (items.map scalarText).map Escape.text := by
    rw [List.map_map, List.map_map]
    exact List.map_congr_left fun v hv => scalarText_escape (List.all_eq_true.mp h v hv)
  rw [SequenceFormat.serialize, escapeItems_eq_map, hitems, SequenceFormat.joinTexts_map_escape,
    SequenceFormat.serialize]

theorem toText_escape {v : Value} (h : v.isFlat) (definition : Option Definition)
    (fallback : SequenceFormat) :
    v.escape.toText definition fallback = Escape.text (v.toText definition fallback) := by
  cases v with
  | list items => exact serialize_escapeItems _ h
  | tuple items => exact serialize_escapeItems _ h
  | text t => exact scalarText_escape (v := .text t) rfl
  | bool b => exact scalarText_escape (v := .bool b) rfl
  | int n => exact scalarText_escape (v := .int n) rfl
  | float x => exact scalarText_escape (v := .float x) rfl
  | _ => simp [isFlat, isSupportedScalar] at h

end Value

namespace Scope

theorem display_escapes_text :
    (∀ (s : Scope) (key : Text), (s.resolve key).raw.isFlat →
        (s.resolve key).display = Escape.text (s.resolve key).text) ∧
      ∀ (format : SequenceFormat) (items : List Value), items.all Value.isSupportedScalar →
        format.serialize (Value.escapeItems items) = Escape.text (format.serialize items) := by
  refine ⟨fun s key h => ?_, fun format items h => Value.serialize_escapeItems format h⟩
  unfold resolve at h ⊢
  cases hvalue : s.value? key with
  | none => simp [hvalue, Value.isFlat, Value.isSupportedScalar] at h
  | some found =>
      obtain ⟨v, state⟩ := found
      by_cases hbare : isBare v state
      · simp [hbare, Escape.text, Escape.pairs]
      · simp only [hvalue, hbare, Bool.false_eq_true, if_false] at h ⊢
        exact Value.toText_escape h _ _

theorem display_escapes_text_of_braces :
    let items : List Value :=
      [.text "\x7b".toList, .text "\x7b\x7bk\x7d\x7d".toList, .text "\x7d".toList, .bool true]
    let s : Scope := ⟨[("a".toList, .list items)], [], .numbered⟩
    (s.resolve "a".toList).text = "1. \x7b\n2. \x7b\x7bk\x7d\x7d\n3. \x7d\n4. true".toList ∧
      (s.resolve "a".toList).display =
        "1. \x7b\n2. \\\x7b\x7bk\\\x7d\x7d\n3. \x7d\n4. true".toList ∧
      SequenceFormat.comma.serialize (Value.escapeItems items) =
        Escape.text (SequenceFormat.comma.serialize items) := by
  refine ⟨by decide, ?_, display_escapes_text.2 .comma _ (by decide)⟩
  rw [display_escapes_text.1 _ _ (by decide)]
  decide

end Scope

end PromptTemplate
