import SqlTyping.Proofs.Catalog.Ledger
import SqlTyping.Proofs.Statement.Memo

/-!
# Compilations that crash

A catalog takes signatures with any representations, also with those that are not assigned. Such a
signature does no harm until a call gets as far as ranking it or comparing it with host types; then
the compilation crashes. Since sites are decided one after the other, a statement crashes if the
first of its sites that is not decided is such a call (`exists_compile_eq_crash_iff`). In all other
cases there is a compiled statement or an error.
-/

namespace SqlTyping

section Decide

variable {env : Environment} {name : String} {sites : List Site}

/-- Deciding sites one after the other ends with the first one that fails. -/
lemma decideFrom_eq_error {i : Nat} {s : Site} {a : Abort} (hs : sites[i]? = some s)
    (hfails : s.decide env = .error a)
    (hbefore : ∀ t ∈ sites.take i, ∃ d, t.decide env = .ok d) (position : Nat) :
    decideFrom env name position sites = .error (a.atExpression name (position + i)) := by
  induction sites generalizing i position with
  | nil => cases hs
  | cons t sites ih =>
    cases i with
    | zero =>
      cases hs
      rw [decideFrom, hfails]
      rfl
    | succ i =>
      rw [List.take_succ_cons, List.forall_mem_cons] at hbefore
      obtain ⟨⟨d, hd⟩, hbefore⟩ := hbefore
      have hrest := ih hs hbefore (position + 1)
      rw [decideFrom, hd]
      change (decideFrom env name (position + 1) sites >>= _) = _
      rw [hrest, Nat.add_assoc, Nat.add_comm 1 i]
      rfl

/-- A statement crashes if the first site that is not decided does. -/
lemma exists_compile_eq_crash_iff (hvalues : Engine.Reachable env.values) {stmt : Statement}
    (hsites : ∀ s ∈ stmt.sites, s.WellFormed) :
    (∃ c, stmt.compile env = .error (.crash c)) ↔
      ∃ i s, stmt.sites[i]? = some s ∧ s.Crashes env ∧
        ∀ t ∈ stmt.sites.take i, ∃ d, t.decide env = .ok d := by
  rw [Statement.compile_eq hsites]
  constructor
  · rintro ⟨c, hc⟩
    cases hdecide : decideFrom env stmt.name 0 stmt.sites with
    | ok es =>
      rw [hdecide] at hc
      cases hc
    | error a =>
      rw [hdecide] at hc
      obtain ⟨i, s, a', hs, hfails, hbefore, rfl⟩ := exists_of_decideFrom_eq_error hdecide
      have hwf := hsites s (List.mem_of_getElem? hs)
      cases a' with
      | error d => cases hc
      | crash c' =>
        exact ⟨i, s, hs, (Site.exists_decide_eq_crash_iff hvalues hwf).mp ⟨c', hfails⟩, hbefore⟩
  · rintro ⟨i, s, hs, hcrashes, hbefore⟩
    have hwf := hsites s (List.mem_of_getElem? hs)
    obtain ⟨c, hc⟩ := (Site.exists_decide_eq_crash_iff hvalues hwf).mpr hcrashes
    rw [decideFrom_eq_error hs hc hbefore 0]
    exact ⟨c, rfl⟩

end Decide

/-- Compiling a statement against a published catalog crashes exactly if the first site that is not
decided is a call that reaches a parameter whose representation is not assigned. If all declared
representations are assigned, there is a compiled statement or an error. -/
theorem compile_crashes_iff (calls : List Publication) {values : Values}
    (hvalues : Engine.Reachable values) {name text : String} {stmt : Statement}
    (hstmt : Statement.parse name text = .ok stmt) :
    let env : Environment := ⟨values, calls.foldl Catalog.after {}⟩
    ((∃ c, stmt.compile env = .error (.crash c)) ↔
        ∃ i s, stmt.sites[i]? = some s ∧ s.Crashes env ∧
          ∀ t ∈ stmt.sites.take i, ∃ d, t.decide env = .ok d) ∧
      ((∀ s ∈ (calls.foldl Ledger.after {}).declared, s.KindsAssigned) →
        (∃ c, stmt.compile env = .ok c) ∨ ∃ d, stmt.compile env = .error (.error d)) := by
  intro env
  have hsites := Statement.wellFormed_of_parse hstmt
  have hiff : (∃ c, stmt.compile env = .error (.crash c)) ↔ _ :=
    exists_compile_eq_crash_iff hvalues hsites
  refine ⟨hiff, fun hdeclared => ?_⟩
  have hholds : env.catalog.Holds _ := Catalog.holds_published calls
  have hkinds : ∀ s ∈ env.catalog.signatures, s.KindsAssigned := fun s hs =>
    hdeclared s (hholds.indexes.signatures_perm.mem_iff.mp hs)
  cases hcompile : stmt.compile env with
  | ok c => exact .inl ⟨c, rfl⟩
  | error a =>
    cases a with
    | error d => exact .inr ⟨d, rfl⟩
    | crash c =>
      obtain ⟨i, s, -, hcrashes, -⟩ := hiff.mp ⟨c, hcompile⟩
      exact absurd hcrashes (Site.not_crashes hkinds s)

/-- A routine with an unassigned representation beside one without, which can be called as long as
the other is not. -/
theorem compile_crashes_iff_second_site :
    let integer : SqlType := ⟨.integer, 10, 0, 0, true⟩
    let f : Declaration := ⟨"f", "f", [⟨"x", some integer, .unassigned 7⟩], none⟩
    let g : Declaration := ⟨"g", "g", [⟨"x", some integer, .any⟩], none⟩
    let env : Environment := ⟨Engine.defaults, [Publication.add [f, g]].foldl Catalog.after {}⟩
    let stmt : Statement :=
      ⟨"q", [.call "g" [.typed integer] {} none, .call "F" [.untyped] {} none]⟩
    Statement.parse "q" "call g(INTEGER)\ncall F(?)" = .ok stmt ∧
      ∃ c, stmt.compile env = .error (.crash c) := by
  intro integer f g env stmt
  have hstmt : Statement.parse "q" "call g(INTEGER)\ncall F(?)" = .ok stmt :=
    Except.eq_ok_of_toOption (by decide +kernel)
  have hlookup : env.catalog.lookup "F" 1 =
      [⟨"f", "f", [⟨"x", integer, .unassigned 7⟩], none⟩] := by decide +kernel
  have hcrashes : (Site.call "F" [.untyped] {} none).Crashes env := by
    refine ⟨by decide +kernel, _, hlookup ▸ List.mem_cons_self, ⟨by decide, rfl, ?_, rfl⟩,
      by decide⟩
    intro i t hi
    cases i <;> cases hi
  have hfirst : ∀ t ∈ stmt.sites.take 1, ∃ d, t.decide env = .ok d := by
    intro t ht
    refine ⟨.call ⟨"g", "g", [⟨"x", integer, .any⟩], none⟩, Except.eq_ok_of_toOption ?_⟩
    rw [List.mem_singleton.mp ht]
    decide +kernel
  exact ⟨hstmt, (compile_crashes_iff [.add [f, g]] .defaults hstmt).1.mpr
    ⟨1, _, rfl, hcrashes, hfirst⟩⟩

/-- A catalog takes a routine that no call can be compiled against: its parameter has no
representation in which an operand could be bound, but the call is not refused for that. -/
theorem compile_crashes_on_published_routine :
    let integer : SqlType := ⟨.integer, 10, 0, 0, true⟩
    let f : Declaration := ⟨"f", "", [⟨"", some integer, .unassigned 7⟩], none⟩
    let stmt : Statement := ⟨"q", [.call "f" [.typed integer] {} none]⟩
    ∃ catalog, Catalog.add {} [f] = .ok catalog ∧
      Statement.parse "q" "call f(INTEGER)" = .ok stmt ∧
      ∃ c, stmt.compile ⟨Engine.defaults, catalog⟩ = .error (.crash c) ∧ c.message =
        "internal error: parameter 1 of f(INTEGER unknown) has invalid representation 7" := by
  intro integer f stmt
  let s : Signature := ⟨"f", "", [⟨"", integer, .unassigned 7⟩], none⟩
  let catalog : Catalog := ⟨[⟨"F", 1, 0, s⟩], 1, 1⟩
  have hadd : Catalog.add {} [f] = .ok catalog := Except.eq_ok_of_toOption (by decide +kernel)
  have hstmt : Statement.parse "q" "call f(INTEGER)" = .ok stmt :=
    Except.eq_ok_of_toOption (by decide +kernel)
  have hmessage : (match stmt.compile ⟨Engine.defaults, catalog⟩ with
      | .error (.crash c) => some c.message
      | _ => none) =
        some "internal error: parameter 1 of f(INTEGER unknown) has invalid representation 7" := by
    decide +kernel
  refine ⟨catalog, hadd, hstmt, ?_⟩
  split at hmessage
  · next c hc => exact ⟨c, hc, Option.some.inj hmessage⟩
  · cases hmessage

end SqlTyping
