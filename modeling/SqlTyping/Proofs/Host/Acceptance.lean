import SqlTyping.Proofs.Host.Signature
import SqlTyping.Proofs.Routine.Agreement

/-!
# The texts of host signatures

White space does not count in a host signature. What is left of an accepted text without it is a
pair of parentheses around spellings of host types, with commas between them, and every such text
is accepted (`parse_eq_ok_iff`). So the spelling of the signature that was read is accepted again,
and it is read as the same signature.

Every family has a host type in each assigned representation, and no host type belongs to none. The
host signature of an overload can therefore be written down and read back, and a call that names it
finds the overload, alone or among others that are bound as the same host types.
-/

namespace SqlTyping

namespace HostSignature

/-! ## Accepted texts -/

/-- The spellings of a host type. `any` has an older one beside its own. -/
def Spells (spelling : List Char) (t : HostType) : Prop :=
  spelling = t.text.toList ∨ t = .any ∧ spelling = anySynonym.toList

/-- What an accepted text is without its white space. -/
def Accepts (source : List Char) (host : HostSignature) : Prop :=
  ∃ spellings : List (List Char), List.Forall₂ Spells spellings host ∧
    Text.solid source = '(' :: ([','].intercalate spellings ++ [')'])

section

variable {body part source spelling : List Char} {parts : List (List Char)} {t : HostType}
  {host : HostSignature}

lemma Spells.ne_nil (h : Spells spelling t) : spelling ≠ [] := by
  rcases h with rfl | ⟨-, rfl⟩
  · exact t.text_ne_nil
  · decide

lemma intercalate_ne_nil {spellings : List (List Char)} (h : Spells spelling t) :
    [','].intercalate (spelling :: spellings) ≠ [] := by
  have hne := h.ne_nil
  cases spellings <;> simp [List.intercalate_cons_cons, hne]

lemma Spells.comma_not_mem (h : Spells spelling t) : ∀ c ∈ spelling, decide (c = ',') = false := by
  have hsynonym : anySynonym.toList.all (fun c => decide (c ≠ ',')) = true := by decide
  rcases h with rfl | ⟨-, rfl⟩
  · exact fun c hc => decide_eq_false (t.of_mem_text c hc).2.1
  · exact fun c hc => decide_eq_false (of_decide_eq_true (List.all_eq_true.mp hsynonym c hc))

/-- A host type is found by its spelling only. -/
lemma ofText?_eq_some_iff : HostType.ofText? spelling = some t ↔ spelling = t.text.toList := by
  have table : ∀ t ∈ HostType.all, HostType.ofText? t.text.toList = some t := by decide
  constructor
  · intro h
    have hfound := List.find?_some h
    exact (beq_iff_eq.mp hfound).symm
  · rintro rfl
    exact table t (HostType.mem_all t)

/-- A part is read as a host type if it is one of its spellings, white space apart. -/
lemma readPart_eq_ok_iff : readPart part = .ok t ↔ Spells (Text.solid part) t := by
  have hother : ∀ t ∈ HostType.all, anySynonym.toList ≠ t.text.toList := by decide
  by_cases hsynonym : Text.solid part = anySynonym.toList
  · have hread : readPart part = .ok .any := by
      rw [readPart, Text.flatten_wordList, hsynonym]
      rfl
    rw [hread, Spells, hsynonym]
    constructor
    · rintro ⟨⟩
      exact .inr ⟨rfl, rfl⟩
    · rintro (h | ⟨rfl, -⟩)
      · exact absurd h (hother t (HostType.mem_all t))
      · rfl
  · rw [readPart, Text.flatten_wordList, Spells, ← ofText?_eq_some_iff]
    simp only [hsynonym, if_false, and_false, or_false]
    split <;> simp_all

/-- The parts of a host signature are read one by one. -/
lemma readParts_eq_ok_iff (position : Nat) :
    readParts position parts = .ok host ↔
      List.Forall₂ (fun part t => readPart part = .ok t) parts host := by
  refine ⟨fun h => ?_, fun h => readParts_eq_ok h position⟩
  induction parts generalizing position host with
  | nil =>
    cases h
    exact .nil
  | cons part parts ih =>
    obtain ⟨t, ht, h⟩ := Except.bind_eq_ok_iff.mp h
    obtain ⟨ts, hts, h⟩ := Except.bind_eq_ok_iff.mp h
    cases h
    exact .cons (Except.mapError_eq_ok_iff.mp ht) (ih _ hts)

/-- The parts between commas are read as host types if they are spelled so, white space apart. -/
lemma readParts_splitAtAll_iff (hne : Text.solid body ≠ []) (position : Nat) :
    readParts position (Text.splitAtAll (· = ',') body) = .ok host ↔
      ∃ spellings, List.Forall₂ Spells spellings host ∧
        Text.solid body = [','].intercalate spellings := by
  have hcomma : ∀ c : Char, decide (c = ',') = true → Text.isSpace c = false := by
    intro c hc
    rw [of_decide_eq_true hc]
    rfl
  have hsplit := Text.splitAtAll_solid hcomma body
  simp only [readParts_eq_ok_iff, readPart_eq_ok_iff]
  constructor
  · intro h
    refine ⟨_, List.forall₂_map_left_iff.mpr h, ?_⟩
    rw [← hsplit, Text.intercalate_splitAtAll]
  · rintro ⟨spellings, hspells, hbody⟩
    have hcommas := (List.forall₂_and_left _ _).mp
      (hspells.imp fun _ _ hs => ⟨Spells.comma_not_mem hs, hs⟩)
    cases spellings with
    | nil => exact absurd hbody hne
    | cons first others =>
      rw [hbody, Text.splitAtAll_intercalate (by rfl) hcommas.1] at hsplit
      rw [← List.forall₂_map_left_iff, ← hsplit]
      exact hspells

/-- What is read between parentheses. -/
lemma read_of_enclosed (h : Text.trimList source = '(' :: (body ++ [')'])) :
    read source = .ok host ↔
      ∃ spellings, List.Forall₂ Spells spellings host ∧
        Text.solid body = [','].intercalate spellings := by
  rw [read, h]
  simp only [List.getLast?_concat, if_true, List.dropLast_concat]
  split
  · next hempty =>
    -- Nothing but white space stands between the parentheses.
    rw [← Text.solid_trimList, List.isEmpty_iff.mp hempty]
    constructor
    · rintro ⟨⟩
      exact ⟨[], .nil, rfl⟩
    · rintro ⟨spellings, hspells, hnil⟩
      rcases hspells with _ | ⟨hfirst, hothers⟩
      · rfl
      · exact absurd hnil.symm (intercalate_ne_nil hfirst)
  · next hsome =>
    have hne : Text.solid (Text.trimList body) ≠ [] := by
      intro hnil
      have hhead := Text.head?_solid body
      rw [← Text.solid_trimList, hnil] at hhead
      exact hsome (by simpa using hhead.symm)
    rw [readParts_splitAtAll_iff hne, Text.solid_trimList]

/-- A text with an opening parenthesis at its front and a closing one at its end. -/
lemma exists_enclosed (hfirst : (Text.trimList source).head? = some '(')
    (hlast : (Text.trimList source).getLast? = some ')') :
    ∃ body, Text.trimList source = '(' :: (body ++ [')']) := by
  obtain ⟨rest, hrest⟩ := List.head?_eq_some_iff.mp hfirst
  rw [hrest] at hlast ⊢
  rcases rest.eq_nil_or_concat' with rfl | ⟨body, c, rfl⟩
  · cases hlast
  · rw [← List.cons_append, List.getLast?_concat] at hlast
    cases hlast
    exact ⟨body, rfl⟩

/-- Only texts in parentheses are read. -/
lemma exists_enclosed_of_read (h : read source = .ok host) :
    ∃ body, Text.trimList source = '(' :: (body ++ [')']) := by
  unfold read at h
  split at h
  · next rest hrest =>
    split at h
    · next hlast =>
      refine exists_enclosed (by rw [hrest]; rfl) ?_
      rw [hrest, List.getLast?_cons, hlast]
      rfl
    · cases h
  · cases h

/-- A text is read as a host signature if it is one of its texts, white space apart. -/
lemma read_eq_ok_iff : read source = .ok host ↔ Accepts source host := by
  have hsolid : ∀ body, Text.trimList source = '(' :: (body ++ [')']) →
      Text.solid source = '(' :: (Text.solid body ++ [')']) := by
    intro body hbody
    rw [← Text.solid_trimList, hbody, Text.solid_cons rfl, Text.solid_append]
    rfl
  constructor
  · intro h
    obtain ⟨body, hbody⟩ := exists_enclosed_of_read h
    obtain ⟨spellings, hspells, hjoined⟩ := (read_of_enclosed hbody).mp h
    exact ⟨spellings, hspells, by rw [hsolid body hbody, hjoined]⟩
  · rintro ⟨spellings, hspells, hsource⟩
    obtain ⟨body, hbody⟩ : ∃ body, Text.trimList source = '(' :: (body ++ [')']) := by
      refine exists_enclosed ?_ ?_
      · rw [← Text.head?_solid, hsource]
        rfl
      · rw [← Text.getLast?_solid, hsource, ← List.cons_append, List.getLast?_concat]
    rw [hsolid body hbody, List.cons_inj_right, List.append_cancel_right_eq] at hsource
    exact (read_of_enclosed hbody).mpr ⟨spellings, hspells, hsource⟩

/-- The texts of a host signature are those that it is read from. -/
lemma parse_eq_ok_iff {text : String} : parse text = .ok host ↔ Accepts text.toList host :=
  Except.mapError_eq_ok_iff.trans read_eq_ok_iff

lemma parse_render (host : HostSignature) : parse host.render = .ok host :=
  Except.mapError_eq_ok_iff.mpr (read_render host)

end

end HostSignature

/-! ## Overloads and their host signatures -/

section Overloads

variable {ps : List Param} {host : HostSignature} {s : Signature} {cs : List Signature}
  {limit : Int} {name : String} {context : ReturnContext} {o : CallOutcome}

/-- Every natural host type is that of some family. -/
lemma HostBase.exists_family (base : HostBase) : ∃ f : Family, f.hostBase = base := by
  cases base with
  | bool => exact ⟨.boolean, rfl⟩
  | int16 => exact ⟨.smallInt, rfl⟩
  | int32 => exact ⟨.integer, rfl⟩
  | int64 => exact ⟨.bigInt, rfl⟩
  | decimal => exact ⟨.decimal, rfl⟩
  | float32 => exact ⟨.real, rfl⟩
  | float64 => exact ⟨.double, rfl⟩
  | string => exact ⟨.char, rfl⟩
  | bytes => exact ⟨.blob, rfl⟩
  | time => exact ⟨.date, rfl⟩

/-- A host type is `any`, the natural host type of a family or a pointer to one. -/
lemma HostType.text_cases (t : HostType) : t.text = "any" ∨
    ∃ f : Family, t.text = f.hostBase.text ∨ t.text = "*" ++ f.hostBase.text := by
  rcases t with _ | base | base
  · exact .inl rfl
  · obtain ⟨f, rfl⟩ := base.exists_family
    exact .inr ⟨f, .inl rfl⟩
  · obtain ⟨f, rfl⟩ := base.exists_family
    exact .inr ⟨f, .inr rfl⟩

/-- Where no operands are given, only the host types are compared. -/
lemma fitsHost_of_boundAs (h : BoundAs ps host) : fitsHost ps host [] = true := by
  induction h with
  | nil => rfl
  | cons hp _ ih =>
    unfold fitsHost at ih ⊢
    simpa [matchesHost, hp, Param.acceptsOperand] using ih

/-- Among candidates that are left, each is chosen or tied. -/
lemma explicitOutcome_of_mem {xs : List Signature} (hs : s ∈ xs) :
    explicitOutcome none xs = .resolved s {} ∨ s ∈ (explicitOutcome none xs).candidates := by
  rcases xs with _ | ⟨t, _ | ⟨u, ts⟩⟩
  · cases hs
  · rw [List.mem_singleton] at hs
    subst hs
    exact .inl rfl
  · exact .inr ((List.mergeSort_perm _ _).mem_iff.mpr hs)

/-- An overload that the context admits is found by its own host signature, whatever other
candidates there are. -/
lemma taken_of_resolveExplicit (hs : s ∈ cs) (hname : Text.equalFold s.name name = true)
    (hhost : s.hostSignature? = some host) (hadmits : context.admits s.result = true)
    (h : resolveExplicit limit name cs host none context = .ok o) :
    o = .resolved s {} ∨ s ∈ o.candidates := by
  have hbound := Signature.hostSignature?_eq_some_iff.mp hhost
  have harity : s.arity = host.length := hbound.length_eq
  have hlimit : (cs.length : Int) ≤ limit := by
    by_contra hmany
    rw [resolveExplicit, if_pos (Int.not_le.mp hmany)] at h
    cases h
  -- A comparison that is stuck would have ended the call.
  have hfree : ∀ t ∈ cs.filter (Signature.isNamed name host.length),
      ¬ HostStuck t.params host [] := by
    intro t ht hstuck
    obtain ⟨ht, hnamed⟩ := List.mem_filter.mp ht
    obtain ⟨htname, htarity⟩ := Signature.isNamed_iff.mp hnamed
    have hcrash : ∃ c, resolveExplicit limit name cs host none context = .error (.crash c) :=
      exists_resolveExplicit_eq_crash_iff.mpr ⟨hlimit, rfl, t, ht, htname, htarity, hstuck⟩
    obtain ⟨c, hc⟩ := hcrash
    rw [hc] at h
    cases h
  have hmatching : s ∈ matching host none (cs.filter (Signature.isNamed name host.length)) := by
    refine List.mem_filter.mpr ⟨List.mem_filter.mpr ⟨hs, ?_⟩, fitsHost_of_boundAs hbound⟩
    exact Signature.isNamed_iff.mpr ⟨hname, harity⟩
  rw [resolveExplicit_of_le hlimit, resolveHosted_eq hfree, miscounts, Option.map_none,
    Option.getD_none, if_neg Bool.false_ne_true,
    if_neg (List.isEmpty_iff.not.mpr (List.ne_nil_of_mem hmatching))] at h
  cases h
  exact explicitOutcome_of_mem (List.mem_filter.mpr ⟨hmatching, hadmits⟩)

/-- An outcome that chooses an overload or lists it as tied is not that none applies. -/
lemma CallOutcome.kindName_ne_unresolvable (h : o = .resolved s {} ∨ s ∈ o.candidates) :
    o.kindName ≠ "unresolvable" := by
  rcases h with rfl | h
  · rw [kindName]
    decide
  · cases o with
    | ambiguous cs r p =>
      rw [kindName]
      decide
    | resolved t r => cases h
    | unresolvable p => cases h
    | ineligible => cases h

end Overloads

/-- Texts of host signatures, and the overloads that they select.

A text is read as a host signature exactly if it consists of spellings of its types between
parentheses and commas, white space apart. The types are `any`, natural host types of families and
pointers to these, and the spelling of the signature is read as the same signature.

An overload whose representations are assigned has a host signature, which is read back from its
spelling as well. A call that names it, without operands and in a context that the overload can
serve, never fails to find it: each outcome takes the overload or lists it among several. There is
an outcome if the candidates are not too many and their representations are assigned, too. -/
theorem host_signature_read_back_selects :
    (∀ (text : String) (host : HostSignature),
      HostSignature.parse text = .ok host ↔ HostSignature.Accepts text.toList host) ∧
    (∀ (text : String) (host : HostSignature), HostSignature.parse text = .ok host →
      (∀ t ∈ host, t.text = "any" ∨
        ∃ f : Family, t.text = f.hostBase.text ∨ t.text = "*" ++ f.hostBase.text) ∧
      HostSignature.parse host.render = .ok host) ∧
    ∀ s : Signature, s.KindsAssigned → ∃ host, s.hostSignature? = some host ∧
      HostSignature.parse host.render = .ok host ∧
      ∀ (limit : Int) (name : String) (cs : List Signature) (context : ReturnContext), s ∈ cs →
        Text.equalFold s.name name = true → context.admits s.result = true →
        (∀ o, resolveExplicit limit name cs host none context = .ok o →
          o.kindName ≠ "unresolvable" ∧ (o = .resolved s {} ∨ s ∈ o.candidates)) ∧
        ((cs.length : Int) ≤ limit → (∀ c ∈ cs, c.KindsAssigned) →
          ∃ o, resolveExplicit limit name cs host none context = .ok o) := by
  refine ⟨fun text host => HostSignature.parse_eq_ok_iff, fun text host _ => ?_, fun s hs => ?_⟩
  · exact ⟨fun t _ => t.text_cases, HostSignature.parse_render host⟩
  · obtain ⟨host, hhost⟩ := hs.exists_hostSignature?
    refine ⟨host, hhost, HostSignature.parse_render host, ?_⟩
    intro limit name cs context hmem hname hadmits
    constructor
    · intro o ho
      have htaken := taken_of_resolveExplicit hmem hname hhost hadmits ho
      exact ⟨CallOutcome.kindName_ne_unresolvable htaken, htaken⟩
    · intro hlimit hkinds
      exact exists_resolveExplicit_eq_ok hlimit hkinds name host none context

/-- White space inside a spelling and the older spelling of `any` are accepted, and the signature is
read back from its own spelling. A routine without parameters is selected by the empty signature.
Two overloads for strings share a host signature, and each of them is among the tied ones. -/
theorem host_signature_read_back_selects_strings :
    let source := "( interface \x7b\x7d , * in t32 )"
    let char : SqlType := ⟨.char, 0, 0, 8, true⟩
    let varchar : SqlType := ⟨.varchar, 0, 0, 20, true⟩
    let a : Signature := ⟨"f", "a", [⟨"x", char, .nullable⟩], none⟩
    let b : Signature := ⟨"F", "b", [⟨"x", varchar, .nullable⟩], none⟩
    let c : Signature := ⟨"f", "c", [], none⟩
    let cs := [b, c, a]
    HostSignature.parse source = .ok [.any, .pointer .int32] ∧
      HostSignature.parse "(any, *int32)" = .ok [.any, .pointer .int32] ∧
      (∀ s ∈ cs, s.KindsAssigned) ∧
      (∃ o, resolveExplicit 3 "f" cs [] none {} = .ok o ∧ o.kindName ≠ "unresolvable") ∧
      ∃ o, resolveExplicit 3 "f" cs [.pointer .string] none {} = .ok o ∧
        a ∈ o.candidates ∧ b ∈ o.candidates := by
  intro source char varchar a b c cs
  have hsource : HostSignature.parse source = .ok [.any, .pointer .int32] :=
    Except.eq_ok_of_toOption (by decide +kernel)
  have hkinds : ∀ s ∈ cs, s.KindsAssigned := by decide
  obtain ⟨-, hback, hselects⟩ := host_signature_read_back_selects
  have hcall : ∀ s ∈ cs, ∀ host, s.hostSignature? = some host →
      ∃ o, resolveExplicit 3 "f" cs host none {} = .ok o ∧ o.kindName ≠ "unresolvable" ∧
        (o = .resolved s {} ∨ s ∈ o.candidates) := by
    have hsame : ∀ s ∈ cs, Text.equalFold s.name "f" = true ∧
        ReturnContext.admits {} s.result = true := by decide
    intro s hs host hhost
    obtain ⟨host', hhost', -, hselected⟩ := hselects s (hkinds s hs)
    cases hhost.symm.trans hhost'
    obtain ⟨htaken, hanswers⟩ := hselected 3 "f" cs {} hs (hsame s hs).1 (hsame s hs).2
    obtain ⟨o, ho⟩ := hanswers (by decide) hkinds
    exact ⟨o, ho, htaken o ho⟩
  refine ⟨hsource, (hback source _ hsource).2, hkinds, ?_, ?_⟩
  · obtain ⟨o, ho, hfound, -⟩ := hcall c (by decide) [] rfl
    exact ⟨o, ho, hfound⟩
  · obtain ⟨o, ho, -, ha⟩ := hcall a (by decide) [.pointer .string] rfl
    obtain ⟨o', ho', -, hb⟩ := hcall b (by decide) [.pointer .string] rfl
    cases ho.symm.trans ho'
    -- One outcome cannot choose both.
    rcases ha with rfl | ha
    · rcases hb with hb | hb
      · exact absurd hb (by decide)
      · cases hb
    · rcases hb with rfl | hb
      · cases ha
      · exact ⟨o, ho, ha, hb⟩

end SqlTyping
