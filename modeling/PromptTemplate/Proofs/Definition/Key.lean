import PromptTemplate.Proofs.Definition.Rules
import PromptTemplate.Variables

namespace PromptTemplate.Definition

def FitsPattern (ends : Text → Prop) (t : Text) : Prop :=
  ∃ row rest, t = row ++ rest ∧ 1 ≤ row.length ∧ row.length ≤ 50 ∧
    (∀ c ∈ row, c.isAlphanum ∨ c = '_' ∨ c = '-') ∧ ends rest

def labeled (key : Text) : Assoc Value :=
  [("key".toList, .text key), ("label".toList, .text ['x'])]

def Declarable (key : Text) : Prop :=
  ∃ d, ofValue (.dict (labeled key)) = .ok d

variable {t word : Text}

theorem fitsPattern_iff (ends : Text → Prop) :
    FitsPattern ends t ↔ ∃ row rest, t = row ++ rest ∧ isKey row ∧ ends rest := by
  simp only [FitsPattern, isKey_iff, ← List.length_pos_iff, Nat.succ_le_iff, and_assoc]

theorem field_key (t : Text) : field (labeled t) "key" = some (.text t) :=
  rfl

theorem isKey_of_declarable (h : Declarable t) : isKey t := by
  obtain ⟨d, hd⟩ := h
  have hread : d.ReadFrom (labeled t) := readFrom_of_ofEntries hd
  have hkey := hread.key
  rw [field_key, checkKey] at hkey
  split at hkey
  · assumption
  · cases hkey

theorem declarable_of_isKey (h : isKey t) : Declarable t := by
  refine ⟨plain t ['x'], ofEntries_of_readFrom ?_⟩
  constructor
  case key => simp [field_key, checkKey, h, plain]
  all_goals rfl

theorem declarable_iff : Declarable t ↔ isKey t :=
  ⟨isKey_of_declarable, declarable_of_isKey⟩

theorem line_end_notMem (h : isKey t) : '\n' ∉ t := by
  intro hmem
  have hchar := ((isKey_iff t).mp h).2.2 '\n' hmem
  exact absurd hchar (by decide)

theorem isVariableKey_iff :
    t.isVariableKey ↔ isKey t ∨ ∃ word, t = word ++ ['\n'] ∧ isKey word := by
  unfold Text.isVariableKey
  split
  · rename_i r hlast
    obtain rfl : t = r.reverse ++ ['\n'] := by simpa using congrArg List.reverse hlast
    have hnot : ¬ isKey (r.reverse ++ ['\n']) := fun h => line_end_notMem h (by simp)
    simp [hnot]
  · rename_i hlast
    have hnot : ¬ ∃ word, t = word ++ ['\n'] ∧ isKey word := by
      rintro ⟨word, rfl, -⟩
      exact hlast word.reverse (by simp)
    simp [hnot]

theorem key_checks_differ_at_line_end (t : Text) :
    (t.isVariableKey ↔ FitsPattern (fun rest => rest = [] ∨ rest = ['\n']) t) ∧
    (Declarable t ↔ FitsPattern (fun rest => rest = []) t) ∧
    (t.isVariableKey ↔ Declarable t ∨ ∃ word, t = word ++ ['\n'] ∧ Declarable word) ∧
    ((t.isVariableKey ↔ Declarable t) ↔ ¬ ∃ word, t = word ++ ['\n'] ∧ Declarable word) := by
  have hapart : (∃ word, t = word ++ ['\n'] ∧ isKey word) → ¬ isKey t := by
    rintro ⟨word, rfl, -⟩ hkey
    exact line_end_notMem hkey (by simp)
  simp only [fitsPattern_iff, declarable_iff, isVariableKey_iff]
  refine ⟨?_, by simp, trivial, ?_⟩
  · constructor
    · rintro (hkey | ⟨word, rfl, hword⟩)
      · exact ⟨t, [], by simp, hkey, .inl rfl⟩
      · exact ⟨word, ['\n'], rfl, hword, .inr rfl⟩
    · rintro ⟨row, rest, rfl, hrow, rfl | rfl⟩
      · exact .inl (by simpa using hrow)
      · exact .inr ⟨row, rfl, hrow⟩
  · constructor
    · intro hagree hline
      exact hapart hline (hagree.mp (.inr hline))
    · exact or_iff_left

theorem line_end_passes_check :
    Text.isVariableKey "abc\n".toList = true ∧ ¬ Declarable "abc\n".toList := by
  rw [declarable_iff]
  decide

end PromptTemplate.Definition
