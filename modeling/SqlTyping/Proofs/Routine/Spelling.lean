import SqlTyping.Proofs.Routine.CandidateOrder
import SqlTyping.Proofs.TypeName

/-!
# Signatures that are spelled alike

Tied candidates are listed in the order of their spelling. In a spelling every parameter is a type
in capital letters and a representation in small letters, so that the parameters can be told from
each other and, if their types are well formed, read back (`map_essence_eq_of_render_eq`). Tied
candidates that have no parameters in common are therefore spelled differently, and their order is
fixed: outcomes that are alike are then the same.
-/

namespace SqlTyping

/-! ## Parameters -/

/-- Whether a parameter can be read off the spelling of its signature. -/
def Param.Readable (p : Param) : Prop :=
  p.type.WellFormed ∧ p.kind ∈ RepKind.assigned

/-- The characters of the spelling of a parameter. -/
def Param.spelling (p : Param) : List Char :=
  (Signature.renderBinding p.type p.kind).toList

lemma RepKind.isLower_of_mem_name {k : RepKind} (hk : k ∈ assigned) {c : Char}
    (h : c ∈ k.name.toList) : c.isLower = true := by
  have hall : ∀ k ∈ assigned, k.name.toList.all Char.isLower = true := by decide
  exact List.all_eq_true.mp (hall k hk) c h

lemma RepKind.isLower_of_head? {k : RepKind} (hk : k ∈ assigned) {us : List Char} {c : Char}
    (h : c ∈ (k.name.toList ++ us).head?) : c.isLower = true := by
  have hne : ∀ k ∈ assigned, k.name.toList ≠ [] := by decide
  rw [List.head?_append_of_ne_nil _ (hne k hk)] at h
  exact isLower_of_mem_name hk (List.mem_of_mem_head? h)

lemma RepKind.eq_of_name_eq : ∀ k ∈ assigned, ∀ l ∈ assigned, k.name = l.name → k = l := by
  decide

/-- A spelling of a type has no small letters. -/
lemma SqlType.not_isLower_of_mem_render {t : SqlType} {c : Char} (h : c ∈ t.render.toList) :
    c.isLower = false := by
  have hspelling := TypeName.isSpellingChar_of_mem_render h
  simp only [TypeName.isSpellingChar, Bool.or_eq_true, decide_eq_true_eq] at hspelling
  rw [← Bool.not_eq_true]
  intro hlower
  have hlow : 97 ≤ c.toNat :=
    UInt32.le_iff_toNat_le.mp (of_decide_eq_true (Bool.and_eq_true_iff.mp hlower).1)
  rcases hspelling with ((((hupper | hdigit) | rfl) | rfl) | rfl) | rfl
  · have hhigh : c.toNat ≤ 90 := UInt32.le_iff_toNat_le.mp (of_decide_eq_true hupper).2
    omega
  · have hhigh : c.toNat ≤ 57 :=
      UInt32.le_iff_toNat_le.mp (of_decide_eq_true (Bool.and_eq_true_iff.mp hdigit).2)
    omega
  all_goals exact absurd hlow (by decide)

section Readable

variable {p q : Param} {us vs : List Char}

/-- Parameters at the start of two texts are the same if the texts are, nullability apart. -/
lemma Param.Readable.append_inj (hp : p.Readable) (hq : q.Readable)
    (hus : ∀ u ∈ us.head?, u.isLower = false) (hvs : ∀ v ∈ vs.head?, v.isLower = false)
    (h : p.spelling ++ us = q.spelling ++ vs) : p.essence = q.essence ∧ us = vs := by
  have hspelling : ∀ (p : Param) (us : List Char), p.spelling ++ us =
      ((p.type.withNullable true).render.toList ++ [' ']) ++ (p.kind.name.toList ++ us) := by
    intro p us
    simp [spelling, Signature.renderBinding]
  have hupper : ∀ (p : Param), ∀ c ∈ (p.type.withNullable true).render.toList ++ [' '],
      (!c.isLower) = true := by
    intro p c hc
    rcases List.mem_append.mp hc with hc | hc
    · rw [SqlType.not_isLower_of_mem_render hc]
      rfl
    · rw [List.mem_singleton.mp hc]
      rfl
  have hkind : ∀ {p : Param}, p.Readable → ∀ us : List Char,
      ∀ c ∈ (p.kind.name.toList ++ us).head?, (!c.isLower) = false := by
    intro p hp us c hc
    rw [RepKind.isLower_of_head? hp.2 hc]
    rfl
  rw [hspelling, hspelling] at h
  obtain ⟨htype, hrest⟩ := List.append_inj_of_forall (hupper p) (hupper q) (hkind hp us)
    (hkind hq vs) h
  obtain ⟨hname, hrest⟩ := List.append_inj_of_forall
    (fun c => RepKind.isLower_of_mem_name hp.2) (fun c => RepKind.isLower_of_mem_name hq.2)
    hus hvs hrest
  have hsame : p.kind = q.kind := RepKind.eq_of_name_eq _ hp.2 _ hq.2 (String.toList_inj.mp hname)
  have hread : p.type.withNullable true = q.type.withNullable true := by
    have hreadp := TypeName.read_render ((SqlType.wellFormed_withNullable true).mpr hp.1)
    have hreadq := TypeName.read_render ((SqlType.wellFormed_withNullable true).mpr hq.1)
    rw [List.append_cancel_right htype, hreadq] at hreadp
    exact (Except.ok.inj hreadp).symm
  exact ⟨by rw [essence, essence, hsame, hread], hrest⟩

/-- Parameters between commas are the same if the texts are, nullability apart. -/
lemma map_essence_eq_of_intercalate {ps qs : List Param} (hlength : ps.length = qs.length)
    (hps : ∀ p ∈ ps, p.Readable) (hqs : ∀ q ∈ qs, q.Readable)
    (h : [',', ' '].intercalate (ps.map Param.spelling) ++ ')' :: us =
      [',', ' '].intercalate (qs.map Param.spelling) ++ ')' :: vs) :
    ps.map Param.essence = qs.map Param.essence := by
  induction ps generalizing qs with
  | nil => rw [List.eq_nil_of_length_eq_zero hlength.symm]
  | cons p ps ih =>
    obtain ⟨q, qs, rfl⟩ := List.exists_cons_of_length_eq_add_one hlength.symm
    rw [List.forall_mem_cons] at hps hqs
    rw [List.length_cons, List.length_cons, Nat.add_right_cancel_iff] at hlength
    rcases ps with _ | ⟨p', ps⟩ <;> rcases qs with _ | ⟨q', qs⟩
    · simp only [List.map_cons, List.map_nil, List.intercalate_singleton] at h
      have hhead := (hps.1.append_inj hqs.1 (by simp) (by simp) h).1
      exact congrArg₂ List.cons hhead rfl
    · cases hlength
    · cases hlength
    · simp only [List.map_cons, List.intercalate_cons_cons, List.append_assoc] at h
      obtain ⟨hhead, hrest⟩ := hps.1.append_inj hqs.1 (by simp) (by simp) h
      have htail := ih hlength hps.2 hqs.2 (List.append_cancel_left hrest)
      exact congrArg₂ List.cons hhead htail

end Readable

/-! ## Signatures -/

namespace Signature

variable {a b : Signature}

/-- Whether the parameters of a signature can be read off its spelling. -/
def Readable (s : Signature) : Prop :=
  ∀ p ∈ s.params, p.Readable

lemma exists_toList_render (s : Signature) : ∃ result, s.render.toList =
    (Text.mask s.name).toList ++ '(' :: ([',', ' '].intercalate (s.params.map Param.spelling) ++
      ')' :: result) := by
  have hparams : (", ".intercalate (s.params.map fun p => renderBinding p.type p.kind)).toList =
      [',', ' '].intercalate (s.params.map Param.spelling) := by
    rw [String.toList_intercalate, List.map_map]
    rfl
  unfold render
  cases s.result with
  | none => exact ⟨[], by simp [hparams]⟩
  | some r => exact ⟨(" RETURNS " ++ renderBinding r.type r.kind).toList, by simp [hparams]⟩

/-- Signatures with names of one length and the same number of parameters that are spelled alike
have the same parameters, nullability apart. -/
lemma map_essence_eq_of_render_eq (hname : a.name.toList.length = b.name.toList.length)
    (harity : a.arity = b.arity) (ha : a.Readable) (hb : b.Readable)
    (h : a.render = b.render) : a.params.map Param.essence = b.params.map Param.essence := by
  obtain ⟨result, hrender⟩ := a.exists_toList_render
  obtain ⟨result', hrender'⟩ := b.exists_toList_render
  have hmask : (Text.mask a.name).toList.length = (Text.mask b.name).toList.length := by
    simpa [Text.mask] using hname
  have htext := congrArg String.toList h
  rw [hrender, hrender'] at htext
  obtain ⟨-, hrest⟩ := List.append_inj htext hmask
  exact map_essence_eq_of_intercalate harity ha hb (List.cons.inj hrest).2

end Signature

/-- Outcomes that are alike are the same if the tied candidates are spelled differently. -/
lemma CallOutcome.Alike.eq {o o' : CallOutcome} (h : o.Alike o')
    (hspelling : ∀ a ∈ o.candidates, ∀ b ∈ o.candidates, a.render = b.render → a = b) : o = o' := by
  cases h with
  | refl => rfl
  | ambiguous r p hperm hrender => rw [List.eq_of_perm_of_map_eq hperm hspelling hrender]

end SqlTyping
