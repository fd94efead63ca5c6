import Mathlib.Data.List.Forall2
import SqlTyping.Host.Signature
import SqlTyping.Proofs.Text.Reading

/-!
# Host signatures are read back

The spelling of every host signature, the empty one included, is read as that signature
(`read_render`). Spellings of host types hold neither white space nor commas, so that the commas
between them are the only ones, and the white space that the reader drops is that behind commas.
-/

namespace SqlTyping

namespace HostType

/-- There are no other host types. -/
lemma mem_all (t : HostType) : t ∈ all := by
  rcases t with _ | base | base
  · decide
  · cases base <;> decide
  · cases base <;> decide

/-- The characters of spellings neither separate nor enclose the parts of a host signature. -/
lemma of_mem_text (t : HostType) :
    ∀ c ∈ t.text.toList, Text.isSpace c = false ∧ c ≠ ',' ∧ c ≠ '\n' := by
  have table : ∀ t ∈ all,
      t.text.toList.all (fun c => !Text.isSpace c && c != ',' && c != '\n') = true := by
    decide
  simpa [and_assoc] using List.all_eq_true.mp (table t (mem_all t))

lemma text_ne_nil (t : HostType) : t.text.toList ≠ [] := by
  have table : ∀ t ∈ all, t.text.toList ≠ [] := by decide
  exact table t (mem_all t)

end HostType

namespace HostSignature

lemma readPart_text (t : HostType) : readPart t.text.toList = .ok t := by
  have table : ∀ t ∈ HostType.all, (readPart t.text.toList).toOption = some t := by decide
  exact Except.eq_ok_of_toOption (table t (HostType.mem_all t))

lemma readPart_space_text (t : HostType) : readPart (' ' :: t.text.toList) = .ok t := by
  rw [← readPart_text t, readPart, readPart, Text.wordList_cons_of_isSpace rfl]

lemma readParts_eq_ok {parts : List (List Char)} {s : HostSignature}
    (h : List.Forall₂ (fun part t => readPart part = .ok t) parts s) (position : Nat) :
    readParts position parts = .ok s := by
  induction h generalizing position with
  | nil => rfl
  | cons hpart _ ih =>
    rw [readParts, hpart]
    change (readParts (position + 1) _ >>= _) = _
    rw [ih]
    rfl

/-- The spelling of a host signature without its parentheses. -/
def inner (s : HostSignature) : List Char :=
  [',', ' '].intercalate (s.map fun t => t.text.toList)

lemma toList_render (s : HostSignature) : s.render.toList = '(' :: (s.inner ++ [')']) := by
  simp [render, inner, String.toList_intercalate, Function.comp_def]

lemma inner_cons_cons (t u : HostType) (s : HostSignature) :
    inner (t :: u :: s) = t.text.toList ++ ([',', ' '] ++ inner (u :: s)) := by
  rw [inner, List.map_cons, List.map_cons, List.intercalate_cons_cons, List.append_assoc]
  rfl

lemma inner_cons_ne_nil (t : HostType) (s : HostSignature) : inner (t :: s) ≠ [] := by
  have ht := t.text_ne_nil
  cases s <;> simp [inner, List.intercalate_cons_cons, ht]

/-- A host signature between its parentheses has no white space at its ends. -/
lemma trimList_inner (s : HostSignature) : Text.trimList s.inner = s.inner := by
  have htext : ∀ t : HostType, ∀ c ∈ t.text.toList, Text.isSpace c = false := fun t c hc =>
    (t.of_mem_text c hc).1
  refine Text.trimList_eq_self ?_ ?_
  · intro c hc
    match s with
    | [] => cases hc
    | [t] =>
      rw [inner, List.map_singleton, List.intercalate_singleton] at hc
      exact htext t c (List.mem_of_head? hc)
    | t :: u :: s =>
      rw [inner_cons_cons, List.head?_append_of_ne_nil _ t.text_ne_nil] at hc
      exact htext t c (List.mem_of_head? hc)
  · induction s with
    | nil => exact nofun
    | cons t s ih =>
      cases s with
      | nil =>
        intro c hc
        rw [inner, List.map_singleton, List.intercalate_singleton] at hc
        exact htext t c (List.mem_of_getLast? hc)
      | cons u s =>
        rw [inner_cons_cons, ← List.append_assoc,
          List.getLast?_append_of_ne_nil _ (inner_cons_ne_nil u s)]
        exact ih

/-- The characters of a host signature are those of its types and those around them. -/
lemma newline_not_mem_render (s : HostSignature) : '\n' ∉ s.render.toList := by
  have hinner : '\n' ∉ s.inner := by
    intro h
    induction s with
    | nil => cases h
    | cons t s ih =>
      cases s with
      | nil =>
        rw [inner, List.map_singleton, List.intercalate_singleton] at h
        exact (t.of_mem_text _ h).2.2 rfl
      | cons u s =>
        rw [inner_cons_cons, List.mem_append, List.mem_append] at h
        rcases h with h | h | h
        · exact (t.of_mem_text _ h).2.2 rfl
        · exact absurd h (by decide)
        · exact ih h
  rw [toList_render]
  simp [hinner]

lemma trimList_render (s : HostSignature) : Text.trimList s.render.toList = s.render.toList := by
  rw [toList_render]
  refine Text.trimList_eq_self ?_ (Text.isSpace_of_getLast?_parenthesis [] s.inner)
  rintro c ⟨⟩
  rfl

/-- White space around a host signature does not count. -/
lemma read_trimList (source : List Char) : read (Text.trimList source) = read source := by
  rw [read, Text.trimList_trimList, ← read]

/-- The spelling of a host signature is read as the signature. -/
lemma read_render (s : HostSignature) : read s.render.toList = .ok s := by
  rw [read, trimList_render, toList_render]
  simp only [List.getLast?_concat, if_pos, List.dropLast_concat, trimList_inner]
  cases s with
  | nil => rfl
  | cons t s =>
    have hparts : ∀ piece ∈ t.text.toList :: (s.map fun u => u.text.toList).map (' ' :: ·),
        ∀ c ∈ piece, decide (c = ',') = false := by
      intro piece hpiece c hc
      rw [decide_eq_false_iff_not]
      rcases List.mem_cons.mp hpiece with rfl | hpiece
      · exact (t.of_mem_text c hc).2.1
      · rw [List.map_map, List.mem_map] at hpiece
        obtain ⟨u, -, rfl⟩ := hpiece
        rcases List.mem_cons.mp hc with rfl | hc
        · decide
        · exact (u.of_mem_text c hc).2.1
    rw [if_neg (by simpa using inner_cons_ne_nil t s), inner, List.map_cons,
      Text.intercalate_comma_space, Text.splitAtAll_intercalate (by rfl) hparts]
    refine readParts_eq_ok (List.Forall₂.cons (readPart_text t) ?_) 0
    rw [List.map_map, List.forall₂_map_left_iff, List.forall₂_same]
    exact fun u _ => readPart_space_text u

end HostSignature

end SqlTyping
