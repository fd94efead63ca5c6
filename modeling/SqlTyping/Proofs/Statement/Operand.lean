import SqlTyping.Proofs.TypeName
import SqlTyping.Statement.Reader

/-!
# Operands are read back

An operand list is cut at the commas that stand outside quotes and inner parentheses. How far inside
of these a text is, is its `Nesting`, and a text that leaves its nesting as it was without such a
comma is `Closed`. Closed texts pass through the cutting unharmed (`splitOperands?_join`).

The spelling of every operand is closed, whatever stands between the quotes of a constant, and it is
read as the operand (`read_render`). Conversely an operand that was read has a well-formed type, and
the text of a constant consists of characters of what was read.
-/

namespace SqlTyping

/-! ## Nesting -/

/-- How deep inside parentheses, and whether inside quotes, a place of an operand list is. -/
structure Nesting where
  depth : Nat
  quoted : Bool
  deriving DecidableEq

namespace Nesting

/-- The nesting outside all parentheses and quotes. -/
def outside : Nesting := ⟨0, false⟩

/-- The nesting behind one more character. A comma or a closing parenthesis outside everything ends
the text. -/
def step? (n : Nesting) (c : Char) : Option Nesting :=
  if n.quoted then some ⟨n.depth, c ≠ '\''⟩
  else if c = '\'' then some ⟨n.depth, true⟩
  else if c = '(' then some ⟨n.depth + 1, false⟩
  else if c = ')' then if n.depth = 0 then none else some ⟨n.depth - 1, false⟩
  else if c = ',' ∧ n.depth = 0 then none
  else some n

/-- The nesting behind a text. -/
def after? (n : Nesting) (cs : List Char) : Option Nesting :=
  cs.foldlM step? n

@[simp] lemma after?_nil (n : Nesting) : n.after? [] = some n := rfl

lemma after?_cons (n : Nesting) (c : Char) (cs : List Char) :
    n.after? (c :: cs) = (n.step? c).bind (·.after? cs) :=
  List.foldlM_cons ..

lemma after?_append (n : Nesting) (cs ds : List Char) :
    n.after? (cs ++ ds) = (n.after? cs).bind (·.after? ds) :=
  List.foldlM_append ..

/-- Whether a character opens, closes or separates nothing. -/
def isNeutral (c : Char) : Bool :=
  c ≠ '\'' && c ≠ '(' && c ≠ ')' && c ≠ ','

/-- Neutral characters leave the nesting as it is. -/
lemma after?_of_isNeutral {n : Nesting} (hn : n.quoted = false) {cs : List Char}
    (hcs : ∀ c ∈ cs, isNeutral c = true) : n.after? cs = some n := by
  induction cs with
  | nil => rfl
  | cons c cs ih =>
    rw [List.forall_mem_cons] at hcs
    have hc := hcs.1
    simp only [isNeutral, Bool.and_eq_true, decide_eq_true_eq] at hc
    have hstep : n.step? c = some n := by simp [step?, hn, hc]
    rw [after?_cons, hstep]
    exact ih hcs.2

end Nesting

/-- Whether a text closes all parentheses and quotes that it opens, closes no others, and has no
comma outside of them. -/
def Closed (cs : List Char) : Prop :=
  Nesting.outside.after? cs = some .outside

namespace Site

/-! ## Cutting operand lists -/

lemma prepend_cons (c : Char) (cs : List Char) (r : List (List Char) × List Char) :
    prepend [c] (prepend cs r) = prepend (c :: cs) r := by
  unfold prepend
  rcases r with ⟨_ | ⟨first, others⟩, rest⟩ <;> rfl

lemma prepend_ne_nil (cs : List Char) (r : List (List Char) × List Char) :
    (prepend cs r).1 ≠ [] := by
  unfold prepend
  split <;> simp

/-- There is always a first text. -/
lemma ne_nil_of_segments? {depth : Nat} {quoted : Bool} {cs : List Char}
    {r : List (List Char) × List Char} (h : segments? depth quoted cs = some r) : r.1 ≠ [] := by
  cases cs with
  | nil => cases h
  | cons c cs =>
    rw [segments?] at h
    have hpush : ∀ {x : Option (List (List Char) × List Char)},
        x.map (prepend [c]) = some r → r.1 ≠ [] := by
      intro x hx
      obtain ⟨r', -, rfl⟩ := Option.map_eq_some_iff.mp hx
      exact prepend_ne_nil [c] r'
    split_ifs at h
    · exact hpush h
    · exact hpush h
    · exact hpush h
    · cases h
      exact List.cons_ne_nil _ _
    · exact hpush h
    · obtain ⟨r', -, rfl⟩ := Option.map_eq_some_iff.mp h
      exact List.cons_ne_nil _ _
    · exact hpush h

/-- A character that neither ends the list nor separates two texts goes to the first text. -/
lemma segments?_cons {n m : Nesting} {c : Char} (h : n.step? c = some m) (rest : List Char) :
    segments? (n.depth + 1) n.quoted (c :: rest) =
      (segments? (m.depth + 1) m.quoted rest).map (prepend [c]) := by
  unfold Nesting.step? at h
  rw [segments?]
  split_ifs at h with hquoted hquote hopening hclosing hdepth hcomma
  · cases h
    rw [if_pos hquoted]
  · cases h
    rw [if_neg hquoted, if_pos hquote]
  · cases h
    rw [if_neg hquoted, if_neg hquote, if_pos hopening]
  · cases h
    have hback : n.depth - 1 + 1 = n.depth + 1 - 1 := by omega
    rw [if_neg hquoted, if_neg hquote, if_neg hopening, if_pos hclosing, if_neg (by omega), hback]
  · cases h
    have hcomma' : ¬ (c = ',' ∧ n.depth + 1 = 1) := by simpa using hcomma
    rw [if_neg hquoted, if_neg hquote, if_neg hopening, if_neg hclosing, if_neg hcomma']
    rw [Bool.not_eq_true] at hquoted
    rw [hquoted]

/-- A text within one operand goes to the first text as a whole. -/
lemma segments?_append {n m : Nesting} {cs : List Char} (h : n.after? cs = some m)
    (rest : List Char) :
    segments? (n.depth + 1) n.quoted (cs ++ rest) =
      (segments? (m.depth + 1) m.quoted rest).map (prepend cs) := by
  induction cs generalizing n with
  | nil =>
    cases h
    rw [List.nil_append]
    cases hrest : segments? (m.depth + 1) m.quoted rest with
    | none => rfl
    | some r =>
      obtain ⟨first, others, hr⟩ := List.exists_cons_of_ne_nil (ne_nil_of_segments? hrest)
      rw [Option.map_some, prepend, hr]
      change some r = some (first :: others, r.2)
      rw [← hr]
  | cons c cs ih =>
    rw [Nesting.after?_cons] at h
    obtain ⟨k, hk, h⟩ := Option.bind_eq_some_iff.mp h
    rw [List.cons_append, segments?_cons hk, ih h, Option.map_map]
    congr 1
    funext r
    exact prepend_cons c cs r

lemma segments?_closed {cs : List Char} (h : Closed cs) (rest : List Char) :
    segments? 1 false (cs ++ rest) = (segments? 1 false rest).map (prepend cs) :=
  segments?_append (n := .outside) h rest

/-- Texts joined by commas, behind an opening parenthesis, are cut apart again. -/
lemma segments?_intercalate {first : List Char} {others : List (List Char)}
    (h : ∀ cs ∈ first :: others, Closed cs) (rest : List Char) :
    segments? 1 false ([','].intercalate (first :: others) ++ ')' :: rest) =
      some (first :: others, rest) := by
  induction others generalizing first with
  | nil =>
    rw [List.intercalate_singleton, segments?_closed (h first List.mem_cons_self)]
    simp [segments?, prepend]
  | cons second others ih =>
    rw [List.forall_mem_cons] at h
    have hcomma : ∀ cs : List Char, segments? 1 false (',' :: cs) =
        (segments? 1 false cs).map fun r => ([] :: r.1, r.2) := fun cs => rfl
    rw [List.intercalate_cons_cons, List.append_assoc, List.append_assoc, List.singleton_append,
      segments?_closed h.1, hcomma, ih h.2]
    simp [prepend]

/-- The texts of operands that are joined by commas and spaces are found again, without the white
space at their ends and together with what follows the closing parenthesis. Only a single blank text
is taken for an empty list. -/
lemma splitOperands?_intercalate {texts : List (List Char)} (h : ∀ cs ∈ texts, Closed cs)
    (rest : List Char) :
    splitOperands? ([',', ' '].intercalate texts ++ ')' :: rest) =
      some (if texts.map Text.trimList = [[]] then [] else texts.map Text.trimList, rest) := by
  cases texts with
  | nil => rfl
  | cons first others =>
    have hclosed : ∀ cs ∈ first :: others.map (' ' :: ·), Closed cs := by
      intro cs hcs
      rcases List.mem_cons.mp hcs with rfl | hcs
      · exact h cs List.mem_cons_self
      · obtain ⟨ds, hds, rfl⟩ := List.mem_map.mp hcs
        exact h ds (List.mem_cons_of_mem first hds)
    have htrim : (first :: others.map (' ' :: ·)).map Text.trimList =
        (first :: others).map Text.trimList := by
      rw [List.map_cons, List.map_cons, List.map_map]
      congr 1
    rw [splitOperands?, Text.intercalate_comma_space, segments?_intercalate hclosed,
      Option.map_some]
    simp only [htrim]

/-- Where no text is blank, all of them are found. -/
lemma splitOperands?_join {texts : List (List Char)}
    (h : ∀ cs ∈ texts, Text.trimList cs ≠ [] ∧ Closed cs) (rest : List Char) :
    splitOperands? ([',', ' '].intercalate texts ++ ')' :: rest) =
      some (texts.map Text.trimList, rest) := by
  rw [splitOperands?_intercalate fun cs hcs => (h cs hcs).2, if_neg]
  intro hblank
  obtain ⟨cs, hcs, hempty⟩ := List.mem_map.mp (hblank ▸ List.mem_singleton_self [])
  exact (h cs hcs).1 hempty

end Site

/-! ## Spellings of operands -/

namespace Operand

/-- The digits of a number are neutral. -/
lemma isNeutral_of_mem_toDigits {n : Nat} {c : Char} (h : c ∈ Nat.toDigits 10 n) :
    Nesting.isNeutral c = true := by
  have hdigit := Text.isDigit_of_mem_toDigits h
  simp only [Nesting.isNeutral, Bool.and_eq_true, decide_eq_true_eq]
  refine ⟨⟨⟨?_, ?_⟩, ?_⟩, ?_⟩
  all_goals
    rintro rfl
    exact absurd hdigit (by decide)

lemma after?_toDigits (depth n : Nat) :
    (Nesting.mk depth false).after? (Nat.toDigits 10 n) = some ⟨depth, false⟩ :=
  Nesting.after?_of_isNeutral rfl fun _ => isNeutral_of_mem_toDigits

/-- The parentheses of a type name are closed. -/
lemma closed_sqlText (t : SqlType) : Closed t.sqlText.toList := by
  have hname : ∀ f : Family, Nesting.outside.after? f.sqlName.toList = some .outside := by decide
  have hword : ∀ f : Family, Nesting.outside.after? ((TypeName.lengthWord f).toList ++ ['(']) =
      some ⟨1, false⟩ := by
    decide
  have hclosing : ∀ f : Family, (Nesting.mk 1 false).after? (TypeName.lengthClosing f) =
      some .outside := by
    decide
  unfold Closed
  by_cases hd : t.family = .decimal
  · have hopening : Nesting.outside.after? "DECIMAL(".toList = some ⟨1, false⟩ := by decide
    have hcomma : (Nesting.mk 1 false).after? [','] = some ⟨1, false⟩ := by decide
    have hend : (Nesting.mk 1 false).after? [')'] = some .outside := by decide
    simp only [TypeName.sqlText_of_decimal hd, Nesting.after?_append, hopening, hcomma, hend,
      after?_toDigits, Option.bind_some]
  · by_cases hl : t.family.declaresLength
    · rw [TypeName.sqlText_of_declaresLength hl, Nesting.after?_append, Nesting.after?_append,
        hword, Option.bind_some, after?_toDigits, Option.bind_some, hclosing]
    · rw [TypeName.sqlText_of_fixed hd hl, hname]

lemma closed_renderType (t : SqlType) : Closed t.render.toList := by
  have hnot : Nesting.outside.after? " NOT NULL".toList = some .outside := by decide
  have hsql := closed_sqlText t
  unfold SqlType.render
  split
  · exact hsql
  · unfold Closed at hsql ⊢
    rw [String.toList_append, Nesting.after?_append, hsql, Option.bind_some, hnot]

/-- A spelling of a type starts with a letter that starts no other kind of operand. -/
lemma exists_renderType_eq_cons (t : SqlType) :
    ∃ c rest, t.render.toList = c :: rest ∧ Text.isSpace c = false ∧ c ≠ '?' ∧ c ≠ '\'' ∧
      Text.upperChar c ≠ 'N' := by
  have table : ∀ f : Family, f.name.toList.head?.any (fun c =>
      !Text.isSpace c && c != '?' && c != '\'' && Text.upperChar c != 'N') = true := by
    decide
  have hfirst := table t.family
  rw [← TypeName.head?_render] at hfirst
  obtain ⟨c, hc, hfirst⟩ := (Option.any_eq_true _ _).mp hfirst
  obtain ⟨rest, hrest⟩ := List.head?_eq_some_iff.mp hc
  exact ⟨c, rest, hrest, by simpa [and_assoc] using hfirst⟩

/-- Doubled quotes do not leave the quotes around them. -/
lemma after?_doubleQuotes (depth : Nat) (cs : List Char) :
    (Nesting.mk depth true).after? (doubleQuotes cs) = some ⟨depth, true⟩ := by
  induction cs with
  | nil => rfl
  | cons c cs ih =>
    rw [doubleQuotes, List.flatMap_cons, ← doubleQuotes, Nesting.after?_append]
    split
    · exact ih
    · next hc =>
      have hstep : (Nesting.mk depth true).after? [c] = some ⟨depth, true⟩ := by
        simp [Nesting.after?_cons, Nesting.step?, hc]
      rw [hstep, Option.bind_some, ih]

/-- A text with doubled quotes is read up to the closing quote. -/
lemma readConstant?_doubleQuotes (cs : List Char) {rest : List Char}
    (hrest : rest.head? ≠ some '\'') :
    readConstant? (doubleQuotes cs ++ '\'' :: rest) = some (cs, rest) := by
  induction cs with
  | nil =>
    cases rest with
    | nil => rfl
    | cons c rest =>
      have hc : c ≠ '\'' := by simpa using hrest
      simp [doubleQuotes, readConstant?, hc]
  | cons c cs ih =>
    rw [doubleQuotes, List.flatMap_cons, ← doubleQuotes]
    split
    · next hc => simp [readConstant?, ih, hc]
    · next hc => simp [readConstant?, ih, hc]

/-- What is read between quotes stands there. -/
lemma mem_of_readConstant? {cs text rest : List Char} (h : readConstant? cs = some (text, rest))
    {c : Char} (hc : c ∈ text) : c ∈ cs := by
  fun_induction readConstant? cs generalizing text rest with
  | case1 => cases h
  | case2 cs ih =>
    obtain ⟨⟨text', rest'⟩, hread, h⟩ := Option.map_eq_some_iff.mp h
    cases h
    rcases List.mem_cons.mp hc with rfl | hc
    · exact List.mem_cons_self
    · exact List.mem_cons_of_mem _ (List.mem_cons_of_mem _ (ih hread hc))
  | case3 cs =>
    cases h
    cases hc
  | case4 d cs _ _ ih =>
    obtain ⟨⟨text', rest'⟩, hread, h⟩ := Option.map_eq_some_iff.mp h
    cases h
    rcases List.mem_cons.mp hc with rfl | hc
    · exact List.mem_cons_self
    · exact List.mem_cons_of_mem _ (ih hread hc)

/-! ## Operands that are read -/

/-- The type of the operand, if it has one, is well formed. -/
def WellFormed (o : Operand) : Prop :=
  ∀ t ∈ o.type?, t.WellFormed

lemma readType_render {t : SqlType} (ht : t.WellFormed) : readType t.render.toList = .ok t := by
  rw [readType, Except.mapError_eq_ok_iff]
  exact TypeName.read_render ht

/-- The spelling of a string constant, character by character. -/
lemma toList_render_constant (text : String) (t : SqlType) :
    (constant text t).render.toList =
      '\'' :: (doubleQuotes text.toList ++ '\'' :: ':' :: ':' :: t.render.toList) := by
  simp [render]

/-- The spelling of an operand is read as the operand. -/
lemma read_render {o : Operand} (ho : o.WellFormed) : read o.render.toList = .ok o := by
  cases o with
  | untyped => rfl
  | typed t =>
    obtain ⟨c, rest, hrest, -, hmark, hquote, hnull⟩ := exists_renderType_eq_cons t
    have hread : readType (c :: rest) = .ok t := hrest ▸ readType_render (ho t rfl)
    have hnot : ((c :: rest).take 6).map Text.upperChar ≠ "NULL::".toList := by
      intro h
      exact hnull (List.cons.inj h).1
    rw [render, hrest, read, if_neg (by simp), if_neg (by simp [hmark]), if_neg hnot, hread]
    · rfl
    · rintro _ ⟨⟩
      exact hquote rfl
  | null t =>
    have htext : (null t).render.toList = "NULL::".toList ++ t.render.toList :=
      String.toList_append ..
    rw [htext]
    change (readType t.render.toList).map null = _
    rw [readType_render (ho t rfl)]
    rfl
  | constant text t =>
    rw [toList_render_constant]
    have hread : readConstant? (doubleQuotes text.toList ++ '\'' :: ':' :: ':' :: t.render.toList) =
        some (text.toList, ':' :: ':' :: t.render.toList) :=
      readConstant?_doubleQuotes text.toList (by simp)
    rw [read, if_neg (by simp), if_neg (by simp), if_neg]
    · simp only [hread, readType_render (ho t rfl)]
      simp [Except.map]
    · intro h
      exact absurd (List.cons.inj h).1 (by decide)

lemma render_ne_nil (o : Operand) : o.render.toList ≠ [] := by
  cases o with
  | untyped => simp [render]
  | typed t =>
    obtain ⟨c, rest, hrest, -⟩ := exists_renderType_eq_cons t
    simp [render, hrest]
  | null t => simp [render]
  | constant text t => simp [toList_render_constant]

/-- The spelling of every operand is closed, whatever stands between its quotes. -/
lemma closed_render (o : Operand) : Closed o.render.toList := by
  cases o with
  | untyped => rfl
  | typed t => exact closed_renderType t
  | null t =>
    have hnull : Nesting.outside.after? "NULL::".toList = some .outside := by decide
    have ht := closed_renderType t
    unfold Closed at ht ⊢
    rw [render, String.toList_append, Nesting.after?_append, hnull, Option.bind_some, ht]
  | constant text t =>
    have hcast : (Nesting.mk 0 true).after? ['\'', ':', ':'] = some .outside := by decide
    have ht := closed_renderType t
    have htext : (constant text t).render.toList =
        ['\''] ++ doubleQuotes text.toList ++ ['\'', ':', ':'] ++ t.render.toList := by
      simp [toList_render_constant]
    have hopening : Nesting.outside.after? ['\''] = some ⟨0, true⟩ := by decide
    unfold Closed at ht ⊢
    rw [htext, Nesting.after?_append, Nesting.after?_append, Nesting.after?_append, hopening,
      Option.bind_some, after?_doubleQuotes, Option.bind_some, hcast, Option.bind_some, ht]

/-- The spelling of an operand has no white space at its ends. -/
lemma trimList_render (o : Operand) : Text.trimList o.render.toList = o.render.toList := by
  have hlast : ∀ t : SqlType, ∀ c ∈ t.render.toList.getLast?, Text.isSpace c = false :=
    fun t c => TypeName.isSpace_of_getLast?_render
  cases o with
  | untyped => rfl
  | typed t =>
    obtain ⟨d, rest, hrest, hd, -⟩ := exists_renderType_eq_cons t
    refine Text.trimList_eq_self ?_ (hlast t)
    intro c hc
    rw [render, hrest] at hc
    cases hc
    exact hd
  | null t =>
    rw [render, String.toList_append]
    refine Text.trimList_eq_self ?_ (Text.isSpace_of_getLast?_append
      (Text.isSpace_of_getLast?_any (by decide)) (hlast t))
    rintro c ⟨⟩
    rfl
  | constant text t =>
    have hcast : ∀ c ∈ "'::".toList.getLast?, Text.isSpace c = false :=
      Text.isSpace_of_getLast?_any (by decide)
    refine Text.trimList_eq_self ?_ ?_
    · rw [toList_render_constant]
      rintro c ⟨⟩
      rfl
    · rw [render, String.toList_append, String.toList_append]
      refine Text.isSpace_of_getLast?_append ?_ (hlast t)
      rw [List.getLast?_append_of_ne_nil _ (by decide)]
      exact hcast

/-- A spelling is a single line if the constant is. -/
lemma newline_not_mem_render {o : Operand} (ho : ∀ text ∈ o.constant?, '\n' ∉ text.toList) :
    '\n' ∉ o.render.toList := by
  have htype : ∀ t : SqlType, '\n' ∉ t.render.toList := fun t h =>
    absurd (TypeName.isSpellingChar_of_mem_render h) (by decide)
  cases o with
  | untyped => decide
  | typed t => exact htype t
  | null t =>
    rw [render, String.toList_append, List.mem_append]
    rintro (h | h)
    · exact absurd h (by decide)
    · exact htype t h
  | constant text t =>
    have hquoted : '\n' ∉ doubleQuotes text.toList := by
      intro h
      obtain ⟨c, hc, h⟩ := List.mem_flatMap.mp h
      split at h
      · exact absurd h (by decide)
      · rw [List.mem_singleton] at h
        exact ho text rfl (h ▸ hc)
    simp [toList_render_constant, hquoted, htype t]

/-- What an operand says besides its type is taken from the text that it is read from. -/
lemma of_read {cs : List Char} {o : Operand} (h : read cs = .ok o) :
    o.WellFormed ∧ ∀ text ∈ o.constant?, ∀ c ∈ text.toList, c ∈ cs := by
  have htype : ∀ {ds : List Char} {t : SqlType}, readType ds = .ok t → t.WellFormed := by
    intro ds t ht
    exact TypeName.wellFormed_of_read (Except.mapError_eq_ok_iff.mp ht)
  have hoption : ∀ {t : SqlType}, t.WellFormed → ∀ u ∈ some t, u.WellFormed := by
    rintro t ht u ⟨⟩
    exact ht
  unfold read at h
  split at h
  · cases h
  split at h
  · cases h
    exact ⟨nofun, nofun⟩
  split at h
  · obtain ⟨t, ht, rfl⟩ := Except.map_eq_ok_iff.mp h
    exact ⟨hoption (htype ht), nofun⟩
  split at h
  · split at h
    · next rest _ text source hread =>
      obtain ⟨t, ht, rfl⟩ := Except.map_eq_ok_iff.mp h
      refine ⟨hoption (htype ht), ?_⟩
      rintro _ ⟨⟩ c hc
      rw [String.toList_ofList] at hc
      exact List.mem_cons_of_mem _ (mem_of_readConstant? hread hc)
    · cases h
  · obtain ⟨t, ht, rfl⟩ := Except.map_eq_ok_iff.mp h
    exact ⟨hoption (htype ht), nofun⟩

end Operand

end SqlTyping
