import Mathlib
import RealmModels.Proofs.Writing.Printing

namespace RealmModels

def after? (start text : String) : Option String :=
  (text.toList.dropPrefix? start.toList).map String.ofList

def Apart (start other : String) : Prop :=
  ¬ start.toList <+: other.toList ∧ ¬ other.toList <+: start.toList

instance (start other : String) : Decidable (Apart start other) :=
  inferInstanceAs (Decidable (_ ∧ _))

theorem after?_append (start rest : String) : after? start (start ++ rest) = some rest := by
  have hdrop : (start ++ rest).toList.dropPrefix? start.toList = some rest.toList := by
    rw [String.toList_append, List.dropPrefix?_append_of_beq _ (beq_self_eq_true _)]
  rw [after?, hdrop, Option.map_some, String.ofList_toList]

theorem after?_of_apart {start other : String} (h : Apart start other) (rest : String) :
    after? start (other ++ rest) = none := by
  rw [after?, Option.map_eq_none_iff, Option.eq_none_iff_forall_ne_some]
  intro tail htail
  obtain ⟨start', happend, hstart⟩ := List.dropPrefix?_eq_some_iff.mp htail
  obtain rfl := eq_of_beq hstart
  rw [String.toList_append] at happend
  rcases List.prefix_or_prefix_of_prefix (List.prefix_append other.toList rest.toList)
    (happend ▸ List.prefix_append start.toList tail) with hprefix | hprefix
  · exact h.2 hprefix
  · exact h.1 hprefix

namespace Apart

variable {start other : String}

theorem append (h : Apart start other) (more more' : String) :
    Apart (start ++ more) (other ++ more') := by
  have hstart : start.toList <+: (start ++ more).toList := by simp
  have hother : other.toList <+: (other ++ more').toList := by simp
  constructor
  · intro hprefix
    rcases List.prefix_or_prefix_of_prefix (hstart.trans hprefix) hother with hle | hle
    · exact h.1 hle
    · exact h.2 hle
  · intro hprefix
    rcases List.prefix_or_prefix_of_prefix hstart (hother.trans hprefix) with hle | hle
    · exact h.1 hle
    · exact h.2 hle

theorem behind (h : Apart start other) (front : String) : Apart (front ++ start) (front ++ other) := by
  simpa only [Apart, String.toList_append, List.prefix_append_right_inj] using h

end Apart

def before? (ending text : String) : Option String :=
  (text.toList.dropSuffix? ending.toList).map String.ofList

def between? (start ending text : String) : Option String :=
  (after? start text).bind (before? ending)

theorem before?_eq_some_iff (ending text front : String) :
    before? ending text = some front ↔ text = front ++ ending := by
  rw [before?, Option.map_eq_some_iff]
  constructor
  · rintro ⟨cs, hcs, rfl⟩
    obtain ⟨end', htext, hend⟩ := List.dropSuffix?_eq_some_iff.mp hcs
    apply String.toList_injective
    rw [htext, eq_of_beq hend, String.toList_append, String.toList_ofList]
  · rintro rfl
    refine ⟨front.toList, ?_, String.ofList_toList⟩
    rw [String.toList_append]
    exact List.dropSuffix?_eq_some_iff.mpr ⟨_, rfl, beq_self_eq_true _⟩

theorem before?_append (front ending : String) : before? ending (front ++ ending) = some front :=
  (before?_eq_some_iff _ _ _).mpr rfl

theorem between?_append (start middle ending : String) :
    between? start ending (start ++ middle ++ ending) = some middle := by
  rw [between?, String.append_assoc, after?_append]
  exact before?_append middle ending

theorem between?_of_apart {start other : String} (h : Apart start other) (ending rest : String) :
    between? start ending (other ++ rest) = none := by
  rw [between?, after?_of_apart h]
  rfl

def Opens (starts : List String) (text : String) : Prop :=
  ∃ start ∈ starts, ∃ rest, text = start ++ rest

namespace Opens

variable {starts : List String} {start text : String}

theorem of_mem (h : start ∈ starts) (rest : String) : Opens starts (start ++ rest) :=
  ⟨start, h, rest, rfl⟩

theorem self (h : text ∈ starts) : Opens starts text := ⟨text, h, "", String.append_empty.symm⟩

theorem append (h : Opens starts text) (more : String) : Opens starts (text ++ more) := by
  obtain ⟨start, hstart, rest, rfl⟩ := h
  rw [String.append_assoc]
  exact of_mem hstart _

theorem mono {starts' : List String} (h : Opens starts text) (hsub : starts ⊆ starts') :
    Opens starts' text := by
  obtain ⟨start, hstart, hrest⟩ := h
  exact ⟨start, hsub hstart, hrest⟩

theorem after? (h : Opens starts text) (hapart : ∀ other ∈ starts, Apart start other) :
    after? start text = none := by
  obtain ⟨other, hother, rest, rfl⟩ := h
  exact after?_of_apart (hapart other hother) rest

end Opens

namespace Line

def scan {α : Type} (g : String → Option α) (ls : List Line) : List α :=
  ls.filterMap fun l => g l.text

variable {α : Type} {g : String → Option α}

theorem scan_append (ls ls' : List Line) : scan g (ls ++ ls') = scan g ls ++ scan g ls' :=
  List.filterMap_append

theorem scan_cons (l : Line) (ls : List Line) : scan g (l :: ls) = (g l.text).toList ++ scan g ls := by
  rw [scan, List.filterMap_cons]
  cases g l.text <;> rfl

theorem scan_deeper (ls : List Line) : scan g (ls.map deeper) = scan g ls := by
  rw [scan, List.filterMap_map]
  rfl

theorem scan_flatMap {β : Type} (f : β → List Line) (bs : List β) :
    scan g (bs.flatMap f) = bs.flatMap fun b => scan g (f b) := by
  induction bs with
  | nil => rfl
  | cons b bs ih => rw [List.flatMap_cons, List.flatMap_cons, scan_append, ih]

theorem scan_eq_nil {ls : List Line} (h : ∀ l ∈ ls, g l.text = none) : scan g ls = [] :=
  List.filterMap_eq_nil_iff.mpr h

end Line

namespace Writing

theorem scan_bracedLines {α : Type} {g : String → Option α} (hg : g "\x7d" = none) (header : String)
    (body : List Line) :
    Line.scan g (bracedLines header body) =
      (g (header ++ " \x7b")).toList ++ Line.scan g body := by
  rw [bracedLines, Line.scan_cons, Line.scan_append, Line.scan_deeper, Line.scan_cons, hg]
  exact congrArg _ (List.append_nil _)

end Writing

end RealmModels
