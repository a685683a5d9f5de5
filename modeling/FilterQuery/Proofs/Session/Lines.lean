import FilterQuery.Proofs.NameMap
import FilterQuery.Proofs.Results
import FilterQuery.Session

namespace FilterQuery

open FilterQuery.Text

namespace Config

variable {c : Config} {name : String}

end Config

namespace Session

def Quits (line : String) : Prop :=
  String.ofList (trim line.toList) = ":quit" ∨ String.ofList (trim line.toList) = ":q"

/-- The line asks for a page with more rows than the program can hold. -/
def Overflows (c : Config) (line : String) : Prop :=
  ∃ number size total, Request.ofLine (trim line.toList) = .ok (.page number size total) ∧
    c.samplePage (some number) (some size) total = none

end Session

namespace Request

end Request

namespace Session

variable {s : Session} {line : String}

/-- Neither text begins the other, so that they differ whatever follows them. -/
def Apart (s t : String) : Prop := ¬ s.toList <+: t.toList ∧ ¬ t.toList <+: s.toList

instance (s t : String) : Decidable (Apart s t) := inferInstanceAs (Decidable (_ ∧ _))

theorem Apart.ne {t u : String} (h : Apart t u) : t ≠ u := by
  rintro rfl
  exact h.1 (List.prefix_refl _)

theorem Apart.symm {t u : String} (h : Apart t u) : Apart u t := ⟨h.2, h.1⟩

theorem Apart.append {t u : String} (h : Apart t u) (t' : String) : Apart (t ++ t') u := by
  have hbegins : t.toList <+: (t ++ t').toList := by
    rw [String.toList_append]
    exact List.prefix_append _ _
  refine ⟨fun hl => h.1 (hbegins.trans hl), fun hr => ?_⟩
  rcases List.prefix_or_prefix_of_prefix hbegins hr with hl | hr
  · exact h.1 hl
  · exact h.2 hr

end Session

end FilterQuery
